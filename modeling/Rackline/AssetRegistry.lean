import Mathlib.Data.List.Sort
import Rackline.Evm.Arith
import Rackline.Lib.Transition

/-!
# `Rackline.AssetRegistry`: physical assets and the rights in them

`assets/registry.py`, `assets/encumbrance.py` and `assets/roles.py`. An asset is a device or a
partition of one. It is registered under identity keys, put live on a provider account, replaced
when it is sent back, and reviewed. A facility takes it as collateral by an encumbrance, and rights
of third parties are encumbrances without a facility. `eligibility` decides whether an asset can be
taken.

A call is one transaction, so a call that raises changes nothing. Columns that no function reads are
left out (`sku`, `unit_count`, `custodian`, `location`, `identity_confidence`, times, provenance,
details and reasons), and so are encumbrances of receivables. A time that is set is a flag here.
-/

set_option autoImplicit false

namespace Rackline.Assets

open Evm Transition

/-! ### Roles and errors -/

/-- What a call can raise. -/
inductive AssetsError
  | notFound (message : String)
  | forbidden (message : String)
  | invalidState (message : String)
  /-- A database constraint. -/
  | integrity
deriving DecidableEq

/-- `E.Role`. -/
def roles : List String :=
  ["borrower", "lp", "underwriter", "operator", "keeper", "guardian", "treasury", "system"]

/-- `REGISTER_ROLES`. -/
def registerRoles : List String := ["operator", "system"]

/-- `REVIEW_ROLES`. -/
def reviewRoles : List String := ["underwriter"]

/-- `require`. -/
def require (role : String) (allowed : List String) (action : String) : Except AssetsError Unit := do
  revertIf (role ∉ roles) (.forbidden ("unknown role '" ++ role ++ "' for " ++ action))
  revertIf (role ∉ allowed) (.forbidden ("role '" ++ role ++ "' may not " ++ action))

/-- `ULID_CHECK`. -/
def isUlid (id : String) : Bool :=
  decide (id.toList.length = 26) &&
    id.toList.all fun c => "0123456789ABCDEFGHJKMNPQRSTVWXYZ".toList.contains c

/-- `^(vault|secret|doc)://`, for a reference that is there. -/
def isDocumentRef (ref : Option String) : Bool :=
  ref.all fun ref => ["vault://", "secret://", "doc://"].any fun scheme =>
    scheme.toList.isPrefixOf ref.toList

/-- `_derive_ulid`. -/
def deriveUlid (base tag : String) : String :=
  String.ofList ((base.toList.take (26 - tag.toList.length) ++ tag.toList).take 26)

/-! ### Rows -/

/-- `E.AssetKind`. -/
inductive AssetKind
  | PHYSICAL_GPU | MIG_PARTITION | VGPU | VM | CONTAINER | STAKING_GROUP | NODE_NFT
deriving DecidableEq

/-- The `status` of an asset. -/
inductive AssetStatus
  | ACTIVE | RETIRED
deriving DecidableEq

/-- `ownership`. -/
inductive Ownership
  | OWNED | LEASED | UNKNOWN
deriving DecidableEq

/-- `ownership_review`. -/
inductive OwnershipReview
  | UNVERIFIED | VERIFIED | REJECTED
deriving DecidableEq

/-- The value that the column holds. -/
def OwnershipReview.value : OwnershipReview → String
  | UNVERIFIED => "UNVERIFIED"
  | VERIFIED => "VERIFIED"
  | REJECTED => "REJECTED"

/-- A row of `gpu_assets`. -/
structure GpuAsset where
  assetId : String
  kind : AssetKind
  ownership : Ownership
  parentAssetId : Option String
  eligible : Bool
  status : AssetStatus
  replacesAssetId : Option String
  ownershipReview : OwnershipReview
  reviewRef : Option String
deriving DecidableEq

/-- The check constraints of a row. -/
def GpuAsset.checks (a : GpuAsset) : Bool :=
  isUlid a.assetId && decide (a.parentAssetId ≠ some a.assetId) &&
    decide (a.replacesAssetId ≠ some a.assetId) &&
    (!a.eligible || decide (a.ownership ≠ .UNKNOWN)) &&
    (!a.eligible || decide (a.ownershipReview = .VERIFIED ∧ a.status = .ACTIVE)) &&
    isDocumentRef a.reviewRef

/-- A row of `asset_identity_keys`, active until it is retired. -/
structure AssetIdentityKey where
  assetId : String
  scheme : String
  value : String
  active : Bool
deriving DecidableEq

/-- The schemes of `ck_asset_identity_keys_scheme`. -/
def keySchemes : List String := ["GPU_UUID", "SERIAL", "HOST_ID", "GROUP_ID", "NFT_TOKEN", "NIC_MAC"]

/-- A row of `asset_provider_assignments`, live until it is ended. -/
structure AssetProviderAssignment where
  assignmentId : String
  assetId : String
  providerAccountId : String
  ended : Bool
deriving DecidableEq

/-- The `kind` of an encumbrance. -/
inductive EncumbranceKind
  | LIEN | ASSIGNMENT | LEASE | PLEDGE
deriving DecidableEq

/-- The value that the column holds. -/
def EncumbranceKind.value : EncumbranceKind → String
  | LIEN => "LIEN"
  | ASSIGNMENT => "ASSIGNMENT"
  | LEASE => "LEASE"
  | PLEDGE => "PLEDGE"

/-- `THIRD_PARTY_KINDS`. -/
def thirdPartyKinds : List EncumbranceKind := [.LIEN, .PLEDGE, .ASSIGNMENT]

/-- A row of `asset_encumbrances`, `OPEN` until it is `RELEASED`. -/
structure AssetEncumbrance where
  encumbranceId : String
  assetId : String
  holder : String
  priority : Int
  kind : EncumbranceKind
  documentRef : Option String
  facilityId : Option String
  isOpen : Bool
deriving DecidableEq

/-- `ASSET_FLAGS`. -/
inductive AssetFlag
  | DUPLICATE_LISTING | OWNERSHIP_UNVERIFIED | LEASE_UNVERIFIED | PRIORITY_CONFLICT | RMA_PENDING
deriving DecidableEq

/-- The value that the column holds. -/
def AssetFlag.value : AssetFlag → String
  | DUPLICATE_LISTING => "DUPLICATE_LISTING"
  | OWNERSHIP_UNVERIFIED => "OWNERSHIP_UNVERIFIED"
  | LEASE_UNVERIFIED => "LEASE_UNVERIFIED"
  | PRIORITY_CONFLICT => "PRIORITY_CONFLICT"
  | RMA_PENDING => "RMA_PENDING"

/-- A row of `asset_review_flags`, open until it is resolved. -/
structure AssetReviewFlag where
  id : Nat
  assetId : String
  flag : AssetFlag
  resolved : Bool
deriving DecidableEq

/-- A row of `custody_documents`. -/
structure CustodyDocument where
  assetId : String
  kind : String
  documentRef : String
deriving DecidableEq

/-- The tables. -/
structure Registry where
  assets : List GpuAsset
  keys : List AssetIdentityKey
  assignments : List AssetProviderAssignment
  encumbrances : List AssetEncumbrance
  flags : List AssetReviewFlag
  documents : List CustodyDocument
  /-- The rows of `facilities`. -/
  facilities : List String
  /-- The rows of `provider_accounts`. -/
  providerAccounts : List String
deriving DecidableEq

/-- The empty tables. -/
def Registry.initial : Registry :=
  { assets := [], keys := [], assignments := [], encumbrances := [], flags := [], documents := [],
    facilities := [], providerAccounts := [] }

namespace Registry

variable (db : Registry)

/-! ### Writes -/

/-- Insert into `gpu_assets`. -/
def insertAsset (a : GpuAsset) : Except AssetsError Registry := do
  revertIf (a.checks = false ∨ ∃ r ∈ db.assets, r.assetId = a.assetId) .integrity
  return { db with assets := db.assets ++ [a] }

/-- Put a row in the place of the one with its id. -/
def setAsset (a : GpuAsset) : Registry :=
  { db with assets := db.assets.map fun r => if r.assetId = a.assetId then a else r }

/-- Update a row of `gpu_assets`. -/
def updateAsset (a : GpuAsset) : Except AssetsError Registry := do
  revertIf (a.checks = false) .integrity
  return db.setAsset a

/-- Insert an active key. -/
def insertKey (assetId : String) (key : String × String) : Except AssetsError Registry := do
  revertIf (key.1 ∉ keySchemes ∨ ∃ r ∈ db.keys, (r.scheme, r.value) = key ∧ r.active = true) .integrity
  return { db with keys := db.keys ++ [
    { assetId := assetId, scheme := key.1, value := key.2, active := true }] }

/-- Retire the active keys of an asset that meet a condition. -/
def retireKeys (assetId : String) (which : AssetIdentityKey → Bool) : Registry :=
  { db with keys := db.keys.map fun r =>
      if r.assetId = assetId ∧ which r = true then { r with active := false } else r }

/-- Insert an open row into `asset_provider_assignments`. -/
def insertAssignment (r : AssetProviderAssignment) : Except AssetsError Registry := do
  revertIf (isUlid r.assignmentId = false ∨ ∃ q ∈ db.assignments,
    q.assignmentId = r.assignmentId ∨ q.assetId = r.assetId ∧ q.ended = false) .integrity
  return { db with assignments := db.assignments ++ [r] }

/-- End the open assignment of an asset. -/
def closeAssignment (assetId : String) : Registry :=
  { db with assignments := db.assignments.map fun r =>
      if r.assetId = assetId then { r with ended := true } else r }

/-- Insert into `asset_encumbrances`. -/
def insertEncumbrance (r : AssetEncumbrance) : Except AssetsError Registry := do
  revertIf (isUlid r.encumbranceId = false ∨ r.priority ≤ 0 ∨ isDocumentRef r.documentRef = false ∨
    (∃ q ∈ db.encumbrances, q.encumbranceId = r.encumbranceId) ∨
    -- `uq_asset_encumbrances_open_facility`
    r.isOpen = true ∧ r.facilityId.isSome = true ∧ ∃ q ∈ db.encumbrances,
      q.assetId = r.assetId ∧ q.isOpen = true ∧ q.facilityId.isSome = true) .integrity
  return { db with encumbrances := db.encumbrances ++ [r] }

/-- Mark an encumbrance as `RELEASED`. -/
def closeEncumbrance (encumbranceId : String) : Registry :=
  { db with encumbrances := db.encumbrances.map fun r =>
      if r.encumbranceId = encumbranceId then { r with isOpen := false } else r }

/-! ### Lookups -/

/-- `session.get(GpuAsset, asset_id)`. -/
def asset (assetId : String) : Option GpuAsset := db.assets.find? fun r => r.assetId == assetId

/-- `_get`. -/
def get (assetId : String) : Except AssetsError GpuAsset :=
  match db.asset assetId with
  | none => .error (.notFound ("asset " ++ assetId))
  | some a => .ok a

/-- `active_keys` that are the given one. -/
def activeKey (assetId scheme value : String) : Option AssetIdentityKey :=
  db.keys.find? fun r =>
    r.assetId == assetId && r.scheme == scheme && r.value == value && r.active

/-- `find_asset_by_key`. -/
def findAssetByKey (scheme value : String) : Option GpuAsset :=
  (db.keys.find? fun r => r.scheme == scheme && r.value == value && r.active).bind fun r =>
    db.asset r.assetId

/-- `open_assignment`. -/
def openAssignment (assetId : String) : Option AssetProviderAssignment :=
  db.assignments.find? fun r => r.assetId == assetId && !r.ended

/-- `open_flags`. -/
def openFlags (assetId : String) : List AssetReviewFlag :=
  db.flags.filter fun r => r.assetId == assetId && !r.resolved

/-- `children`. -/
def children (assetId : String) : List GpuAsset :=
  (db.assets.filter fun r => r.parentAssetId == some assetId).insertionSort fun a b =>
    a.assetId ≤ b.assetId

/-- `open_encumbrances`. -/
def openEncumbrances (assetId : String) : List AssetEncumbrance :=
  (db.encumbrances.filter fun r => r.assetId == assetId && r.isOpen).insertionSort fun a b =>
    a.priority < b.priority ∨ a.priority = b.priority ∧ a.encumbranceId ≤ b.encumbranceId

/-- `open_facility_encumbrance`. -/
def openFacilityEncumbrance (assetId : String) : Option AssetEncumbrance :=
  db.encumbrances.find? fun r => r.assetId == assetId && r.isOpen && r.facilityId.isSome

/-- `has_document`. -/
def hasDocument (assetId kind : String) : Bool :=
  db.documents.any fun r => r.assetId == assetId && r.kind == kind

/-! ### Flags -/

/-- `raise_flag`. -/
def raiseFlag (assetId : String) (flag : AssetFlag) : Except AssetsError Registry := do
  let a ← db.get assetId
  let db ← db.updateAsset { a with eligible := false }
  return { db with flags := db.flags ++ [
    { id := db.flags.length, assetId := assetId, flag := flag, resolved := false }] }

/-- `resolve_flag`. -/
def resolveFlag (flagId : Nat) (byRole : String) : Except AssetsError Registry := do
  require byRole reviewRoles "resolve an asset review flag"
  match db.flags.find? fun r => r.id == flagId with
  | none => .error (.notFound ("flag " ++ toString flagId))
  | some row => do
    revertIf (row.resolved = true) (.invalidState "flag already resolved")
    return { db with flags := db.flags.map fun r =>
      if r.id = flagId then { r with resolved := true } else r }

/-! ### Registration -/

/-- `assign_provider`. -/
def assignProvider (assetId providerAccountId byRole assignmentId : String) :
    Except AssetsError Registry := do
  require byRole registerRoles "assign an asset to a provider"
  let a ← db.get assetId
  revertIf (a.status ≠ .ACTIVE) (.invalidState "retired asset cannot be assigned")
  revertIf (providerAccountId ∉ db.providerAccounts)
    (.notFound ("provider account " ++ providerAccountId))
  match db.openAssignment assetId with
  | some current =>
    if current.providerAccountId = providerAccountId then
      .error (.invalidState "asset already live on this provider account")
    else
      db.raiseFlag assetId .DUPLICATE_LISTING
  | none =>
    db.insertAssignment
      { assignmentId := assignmentId, assetId := assetId, providerAccountId := providerAccountId,
        ended := false }

/-- `end_assignment`. -/
def endAssignment (assetId byRole : String) : Except AssetsError Registry := do
  require byRole registerRoles "end an assignment"
  revertIf ((db.openAssignment assetId).isNone = true)
    (.notFound ("no open assignment for " ++ assetId))
  return db.closeAssignment assetId

/-- Add the keys of an asset, one after the other. -/
def insertKeys (assetId : String) (keys : List (String × String)) : Except AssetsError Registry :=
  keys.foldlM (fun db key => db.insertKey assetId key) db

/-- `register_asset`. -/
def registerAsset (assetId : String) (kind : AssetKind) (keys : List (String × String))
    (byRole : String) (providerAccountId : Option String) : Except AssetsError Registry := do
  require byRole registerRoles "register an asset"
  revertIf (keys = []) (.invalidState "an asset needs at least one identity key")
  match keys.findSome? fun key => db.findAssetByKey key.1 key.2 with
  | some existing => db.raiseFlag existing.assetId .DUPLICATE_LISTING
  | none => do
    let db ← db.insertAsset
      { assetId := assetId, kind := kind, ownership := .UNKNOWN, parentAssetId := none,
        eligible := false, status := .ACTIVE, replacesAssetId := none,
        ownershipReview := .UNVERIFIED, reviewRef := none }
    let db ← db.insertKeys assetId keys
    match providerAccountId with
    | none => return db
    | some account => db.assignProvider assetId account byRole (deriveUlid assetId "AS")

/-- `register_partition`. -/
def registerPartition (parentAssetId childAssetId : String) (keys : List (String × String))
    (byRole : String) : Except AssetsError Registry := do
  require byRole registerRoles "register a partition"
  let parent ← db.get parentAssetId
  revertIf (parent.kind ≠ .PHYSICAL_GPU)
    (.invalidState "partitions can only be created under a PHYSICAL_GPU")
  revertIf (parent.status ≠ .ACTIVE) (.invalidState "cannot partition a retired asset")
  let db ← db.insertAsset
    { assetId := childAssetId, kind := .MIG_PARTITION, ownership := parent.ownership,
      parentAssetId := some parentAssetId, eligible := false, status := .ACTIVE,
      replacesAssetId := none, ownershipReview := .UNVERIFIED, reviewRef := none }
  db.insertKeys childAssetId keys

/-- `change_identity_key`. -/
def changeIdentityKey (assetId scheme : String) (oldValue : Option String)
    (newValue byRole : String) : Except AssetsError Registry := do
  require byRole registerRoles "change an identity key"
  let a ← db.get assetId
  revertIf (a.status ≠ .ACTIVE) (.invalidState "retired asset")
  let db ← match oldValue with
    | none => pure db
    | some value => do
      revertIf ((db.activeKey assetId scheme value).isNone = true)
        (.notFound ("active key " ++ scheme ++ "=" ++ value ++ " on " ++ assetId))
      pure (db.retireKeys assetId fun r => r.scheme == scheme && r.value == value)
  revertIf ((db.findAssetByKey scheme newValue).isSome = true)
    (.invalidState (scheme ++ "=" ++ newValue ++ " is active on another asset"))
  db.insertKey assetId (scheme, newValue)

/-- `review_ownership`. -/
def reviewOwnership (assetId : String) (verdict : OwnershipReview) (ownership : Ownership)
    (byRole : String) (reviewRef : Option String) : Except AssetsError Registry := do
  require byRole reviewRoles "review asset ownership"
  revertIf (verdict ∉ [OwnershipReview.VERIFIED, .REJECTED])
    (.invalidState "verdict must be VERIFIED or REJECTED")
  revertIf (verdict = .VERIFIED ∧ ownership = .UNKNOWN)
    (.invalidState "cannot verify ownership as UNKNOWN")
  let a ← db.get assetId
  db.updateAsset { a with ownershipReview := verdict, ownership := ownership, reviewRef := reviewRef }

/-! ### Encumbrances -/

/-- `record_third_party_right`. -/
def recordThirdPartyRight (encumbranceId assetId holder : String) (kind : EncumbranceKind)
    (priority : Int) (documentRef byRole : String) : Except AssetsError Registry := do
  require byRole reviewRoles "record a third-party right"
  revertIf ("facility:".toList.isPrefixOf holder.toList = true)
    (.invalidState "use assign_to_facility for our own encumbrances")
  let _ ← db.get assetId
  let db ← db.insertEncumbrance
    { encumbranceId := encumbranceId, assetId := assetId, holder := holder, priority := priority,
      kind := kind, documentRef := some documentRef, facilityId := none, isOpen := true }
  db.raiseFlag assetId (if kind ∈ thirdPartyKinds then .PRIORITY_CONFLICT else .LEASE_UNVERIFIED)

/-- `attach_document`. -/
def attachDocument (assetId kind documentRef byRole : String) : Except AssetsError Registry := do
  require byRole (registerRoles ++ reviewRoles) "attach a document"
  let _ ← db.get assetId
  revertIf (isDocumentRef (some documentRef) = false) .integrity
  return { db with documents := db.documents ++ [
    { assetId := assetId, kind := kind, documentRef := documentRef }] }

/-- The reason for an encumbrance of the asset itself, if it is one. -/
def encumbranceReason (forFacilityId : Option String) (enc : AssetEncumbrance) : Option String :=
  match enc.facilityId with
  | some facility =>
    if forFacilityId = none ∨ some facility ≠ forFacilityId then
      some ("financedByFacility=" ++ facility)
    else none
  | none =>
    if enc.kind ∈ thirdPartyKinds then
      some ("thirdParty" ++ enc.kind.value ++ "=" ++ enc.holder ++ "@" ++ toString enc.priority)
    else none

/-- The reason for another asset that a facility may hold, if it is one. -/
def financedReason (label : String) (assetId : String) (forFacilityId : Option String) :
    Option String :=
  (db.openFacilityEncumbrance assetId).bind fun enc =>
    if enc.facilityId ≠ forFacilityId then some (label ++ enc.facilityId.getD "") else none

/-- The `reasons` of `eligibility`. -/
def reasons (a : GpuAsset) (forFacilityId : Option String) : List String :=
  (if a.status ≠ .ACTIVE then ["status=RETIRED"] else []) ++
  (if a.ownershipReview ≠ .VERIFIED then ["ownershipReview=" ++ a.ownershipReview.value] else []) ++
  (if a.ownership = .UNKNOWN then ["ownership=UNKNOWN"] else []) ++
  (if a.ownership = .LEASED ∧ db.hasDocument a.assetId "LEASE_CONSENT" = false then
    ["leased without LEASE_CONSENT document"] else []) ++
  (db.openFlags a.assetId).map (fun flag => "openFlag=" ++ flag.flag.value) ++
  (db.openEncumbrances a.assetId).filterMap (encumbranceReason forFacilityId) ++
  (a.parentAssetId.bind fun parent =>
    db.financedReason "parentFinancedByFacility=" parent forFacilityId).toList ++
  (db.children a.assetId).filterMap fun child =>
    db.financedReason "partitionFinancedByFacility=" child.assetId forFacilityId

/-- `eligibility`: the reasons against the asset, and the tables with its column set. -/
def eligibility (assetId : String) (forFacilityId : Option String) :
    Except AssetsError (List String × Registry) := do
  let a ← db.get assetId
  let reasons := db.reasons a forFacilityId
  let db ← db.updateAsset { a with eligible := reasons.isEmpty }
  return (reasons, db)

/-- `assign_to_facility`. -/
def assignToFacility (encumbranceId assetId facilityId byRole : String)
    (documentRef : Option String) : Except AssetsError Registry := do
  require byRole reviewRoles "assign an asset to a facility"
  revertIf (facilityId ∉ db.facilities) (.notFound ("facility " ++ facilityId))
  let (reasons, db) ← db.eligibility assetId (some facilityId)
  revertIf (reasons ≠ []) (.invalidState ("asset not eligible: " ++ "; ".intercalate reasons))
  revertIf ((db.openFacilityEncumbrance assetId).isSome = true)
    (.invalidState "asset already financed")
  db.insertEncumbrance
    { encumbranceId := encumbranceId, assetId := assetId, holder := "facility:" ++ facilityId,
      priority := 1, kind := .ASSIGNMENT, documentRef := documentRef,
      facilityId := some facilityId, isOpen := true }

/-- `release`. -/
def release (encumbranceId byRole : String) : Except AssetsError Registry := do
  require byRole reviewRoles "release an encumbrance"
  match db.encumbrances.find? fun r => r.encumbranceId == encumbranceId with
  | none => .error (.notFound ("encumbrance " ++ encumbranceId))
  | some row => do
    revertIf (row.isOpen = false) (.invalidState "already released")
    return db.closeEncumbrance encumbranceId

/-- `carry_over`. -/
def carryOver (enc : AssetEncumbrance) (newAssetId newEncumbranceId : String) :
    Except AssetsError Registry := do
  revertIf (enc.isOpen = false ∨ enc.facilityId = none)
    (.invalidState "only an open facility encumbrance can be carried over")
  let db := db.closeEncumbrance enc.encumbranceId
  db.insertEncumbrance
    { enc with encumbranceId := newEncumbranceId, assetId := newAssetId, isOpen := true }

/-! ### Replacement -/

/-- The `moved_keys` of `replace_asset`. -/
def moveKeys (oldAssetId newAssetId : String) (keys : List (String × String)) :
    Except AssetsError Registry :=
  keys.foldlM (fun db key => do
    revertIf ((db.activeKey oldAssetId key.1 key.2).isNone = true)
      (.notFound ("active key " ++ key.1 ++ "=" ++ key.2 ++ " on " ++ oldAssetId))
    let db := db.retireKeys oldAssetId fun r => r.scheme == key.1 && r.value == key.2
    db.insertKey newAssetId key) db

/-- `replace_asset`. -/
def replaceAsset (oldAssetId newAssetId : String) (movedKeys newKeys : List (String × String))
    (byRole assignmentId : String) (carryEncumbrance : Bool) : Except AssetsError Registry := do
  require byRole registerRoles "replace an asset (RMA)"
  let old ← db.get oldAssetId
  revertIf (old.status ≠ .ACTIVE) (.invalidState "old asset already retired")
  let held := db.openFacilityEncumbrance oldAssetId
  revertIf (held.isSome = true ∧ carryEncumbrance = false)
    (.invalidState "old asset is financed; carry_encumbrance=True is required to move the right")
  let current := db.openAssignment oldAssetId
  let db ← db.insertAsset
    { assetId := newAssetId, kind := old.kind, ownership := old.ownership, parentAssetId := none,
      eligible := false, status := .ACTIVE, replacesAssetId := some oldAssetId,
      ownershipReview := old.ownershipReview, reviewRef := none }
  let db ← db.moveKeys oldAssetId newAssetId movedKeys
  let db ← db.insertKeys newAssetId newKeys
  -- Nothing stays active on a retired device.
  let db := db.retireKeys oldAssetId fun _ => true
  let db ← db.updateAsset { old with status := .RETIRED, eligible := false }
  let db ← match current with
    | none => pure db
    | some assignment =>
      (db.closeAssignment oldAssetId).assignProvider newAssetId assignment.providerAccountId byRole
        assignmentId
  match held with
  | none => return db
  | some enc => db.carryOver enc newAssetId (deriveUlid newAssetId "EN")

end Registry

/-! ### Runs -/

/-- What can happen to the tables. -/
inductive AssetAction
  /-- A facility is created. -/
  | facility (facilityId : String)
  /-- A provider account is created. -/
  | providerAccount (providerAccountId : String)
  | registerAsset (assetId : String) (kind : AssetKind) (keys : List (String × String))
      (byRole : String) (providerAccountId : Option String)
  | registerPartition (parentAssetId childAssetId : String) (keys : List (String × String))
      (byRole : String)
  | assignProvider (assetId providerAccountId byRole assignmentId : String)
  | endAssignment (assetId byRole : String)
  | changeIdentityKey (assetId scheme : String) (oldValue : Option String) (newValue byRole : String)
  | replaceAsset (oldAssetId newAssetId : String) (movedKeys newKeys : List (String × String))
      (byRole assignmentId : String) (carryEncumbrance : Bool)
  | reviewOwnership (assetId : String) (verdict : OwnershipReview) (ownership : Ownership)
      (byRole : String) (reviewRef : Option String)
  | raiseFlag (assetId : String) (flag : AssetFlag)
  | resolveFlag (flagId : Nat) (byRole : String)
  | recordThirdPartyRight (encumbranceId assetId holder : String) (kind : EncumbranceKind)
      (priority : Int) (documentRef byRole : String)
  | attachDocument (assetId kind documentRef byRole : String)
  | eligibility (assetId : String) (forFacilityId : Option String)
  | assignToFacility (encumbranceId assetId facilityId byRole : String)
      (documentRef : Option String)
  | release (encumbranceId byRole : String)

/-- Run an action. -/
def AssetAction.exec (db : Registry) : AssetAction → Except AssetsError Registry
  | facility id => .ok { db with facilities := id :: db.facilities }
  | providerAccount id => .ok { db with providerAccounts := id :: db.providerAccounts }
  | registerAsset id kind keys byRole account => db.registerAsset id kind keys byRole account
  | registerPartition parent child keys byRole => db.registerPartition parent child keys byRole
  | assignProvider id account byRole assignmentId => db.assignProvider id account byRole assignmentId
  | endAssignment id byRole => db.endAssignment id byRole
  | changeIdentityKey id scheme oldValue newValue byRole =>
    db.changeIdentityKey id scheme oldValue newValue byRole
  | replaceAsset old new movedKeys newKeys byRole assignmentId carry =>
    db.replaceAsset old new movedKeys newKeys byRole assignmentId carry
  | reviewOwnership id verdict ownership byRole reviewRef =>
    db.reviewOwnership id verdict ownership byRole reviewRef
  | raiseFlag id flag => db.raiseFlag id flag
  | resolveFlag flagId byRole => db.resolveFlag flagId byRole
  | recordThirdPartyRight encumbranceId id holder kind priority documentRef byRole =>
    db.recordThirdPartyRight encumbranceId id holder kind priority documentRef byRole
  | attachDocument id kind documentRef byRole => db.attachDocument id kind documentRef byRole
  | eligibility id forFacilityId => (db.eligibility id forFacilityId).map Prod.snd
  | assignToFacility encumbranceId id facilityId byRole documentRef =>
    db.assignToFacility encumbranceId id facilityId byRole documentRef
  | release encumbranceId byRole => db.release encumbranceId byRole

/-- One action that was not rolled back. -/
def AssetStep (db : Registry) (a : AssetAction) (db' : Registry) : Prop := a.exec db = .ok db'

/-- Run a list of actions, as long as they are not rolled back. -/
def Registry.run (db : Registry) : List AssetAction → Option Registry
  | [] => some db
  | a :: rest => (a.exec db).toOption.bind fun db' => run db' rest

theorem Registry.run_steps : ∀ {actions : List AssetAction} {db db' : Registry},
    db.run actions = some db' → Steps AssetStep db actions db' := by
  intro actions
  induction actions with
  | nil =>
    intro db db' h
    cases h
    exact .nil db
  | cons a rest ih =>
    intro db db' h
    obtain ⟨mid, hexec, h⟩ := Option.bind_eq_some_iff.mp h
    exact .cons (toOption_eq_some.mp hexec) (ih h)

end Rackline.Assets
