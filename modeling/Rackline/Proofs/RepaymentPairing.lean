import Rackline.RepaymentPairing
import Rackline.Proofs.RepaymentLegs

/-!
# `Rackline.Proofs.RepaymentPairing`: a `Repaid` is paired with the logs of its call

The repayment events of a transaction are legs one after the other. `TxRows.pair` is the pairing on
such a sequence: the last `Repaid` of the facility before the target closes the leg before it, and
the next `Repaid` or `Allocated` opens the leg after it. Between the two the function finds the
target's own leg and nothing else.
-/

set_option autoImplicit false

namespace Rackline

open Evm EventLog Transition

/-! ### Values of decoded logs -/

theorem uint_decimal {n : Nat} (h : n < 2 ^ 256) : (decimal n).uint = some n := by
  have hdigits : (Nat.toDigits 10 n).all Char.isDigit = true :=
    List.all_eq_true.mpr fun c hc => Nat.isDigit_of_mem_toDigits (by decide) (by decide) hc
  unfold decimal Json.uint
  simp only [Nat.ofDigitChars_ten_toDigits]
  rw [if_pos ⟨Nat.toDigits_ne_nil, hdigits, h⟩]

/-- The sixteen digits are in lower case, and no two are the same. -/
theorem digitChar_lower : ∀ d : Fin 16, (Nat.digitChar d).toLower = Nat.digitChar d := by decide

theorem digitChar_inj : ∀ d e : Fin 16, Nat.digitChar d = Nat.digitChar e → d = e := by decide

theorem lower_hexDigits (k n : Nat) : lower (hexDigits k n) = hexDigits k n := by
  induction k generalizing n with
  | zero => rfl
  | succ k ih =>
    have hlast := digitChar_lower ⟨n % 16, Nat.mod_lt n (by decide)⟩
    have hinit : (hexDigits k (n / 16)).map Char.toLower = hexDigits k (n / 16) := ih (n / 16)
    show (hexDigits k (n / 16) ++ [Nat.digitChar (n % 16)]).map Char.toLower = _
    rw [List.map_append, hinit, List.map_singleton, hlast]
    rfl

theorem hexDigits_inj {k n m : Nat} (hn : n < 16 ^ k) (hm : m < 16 ^ k)
    (h : hexDigits k n = hexDigits k m) : n = m := by
  induction k generalizing n m with
  | zero => omega
  | succ k ih =>
    have h' : hexDigits k (n / 16) ++ [Nat.digitChar (n % 16)] =
        hexDigits k (m / 16) ++ [Nat.digitChar (m % 16)] := h
    obtain ⟨hinit, hlast⟩ := List.append_inj' h' rfl
    have hdigit := digitChar_inj ⟨n % 16, Nat.mod_lt n (by decide)⟩
      ⟨m % 16, Nat.mod_lt m (by decide)⟩ (List.singleton_inj.mp hlast)
    have hmod : n % 16 = m % 16 := Fin.mk.inj hdigit
    have hdiv : n / 16 = m / 16 := by
      refine ih ?_ ?_ hinit
      · rw [Nat.pow_succ] at hn
        omega
      · rw [Nat.pow_succ] at hm
        omega
    omega

theorem lower_hex (id : FacilityId) : lower id.hex = id.hex := by
  show '0' :: 'x' :: lower (hexDigits 64 _) = _
  rw [lower_hexDigits]
  rfl

/-- Two facilities have two keys. -/
theorem hex_inj {id id' : FacilityId} (h : id.hex = id'.hex) : id = id' := by
  have hdigits := List.cons.inj (List.cons.inj h).2
  have h256 : (2 : Nat) ^ 256 = 16 ^ 64 := by norm_num
  refine Fin.val_injective (n := 2 ^ 256) (hexDigits_inj (k := 64) ?_ ?_ hdigits.2)
  · rw [← h256]
    exact Fin.isLt (n := 2 ^ 256) id
  · rw [← h256]
    exact Fin.isLt (n := 2 ^ 256) id'


/-! ### Rows and events -/

/-- The row is an event of the kind. -/
def EventRow.is : RepaymentKind → EventRow → Bool
  | .repaid => isRepaid
  | .allocated => isAllocated
  | .received => isReceived
  | .applied => isApplied

section
variable {contracts : ContractAddresses} {tx : TxIdentity} {index : Int} {row : EventRow}
  {log : ProtocolLog} {e : DecodedEvent}

/-- The row of an event that the pairing knows is of its kind only, and names its facility. -/
theorem EventRow.Shows.kind (hs : row.Shows contracts tx index e)
    (he : log.repaymentEvent = some e) :
    ∃ k id, log.kind = some (k, id) ∧ (∀ k', row.is k' = true ↔ k' = k) ∧
      row.facilityKey = some id.hex := by
  have hfacility : ∀ id : FacilityId, e.args.lookup "facilityId" = some (.str id.hex) →
      row.facilityKey = some id.hex := by
    intro id hlookup
    simp only [facilityKey, hs.decoded, hlookup, Json.lower, lower_hex]
  have hname : ∀ contract event, row.isNamed contract event =
      (e.contract == contract && e.event == event) := by
    intro contract event
    rw [isNamed, hs.contractName, hs.eventName]
  unfold ProtocolLog.repaymentEvent at he
  split at he
  all_goals
    first
    | cases he
      refine ⟨_, _, rfl, fun k' => ?_, hfacility _ (by simp [List.lookup_cons])⟩
      cases k' <;> simp [EventRow.is, isRepaid, isAllocated, isReceived, isApplied, hname]
    | cases he

theorem EventRow.Shows.isConfigured (hs : row.Shows contracts tx index e) :
    row.isConfigured contracts = true := by
  obtain ⟨a, ha, hrow⟩ := hs.address
  unfold EventRow.isConfigured
  rw [hs.contractName, ha, hrow]
  exact beq_self_eq_true _

theorem ProtocolLog.repaymentEvent_isSome (h : log.isRepayment = true) :
    ∃ e, log.repaymentEvent = some e := by
  unfold isRepayment kind at h
  split at h
  · exact ⟨_, rfl⟩
  · exact ⟨_, rfl⟩
  · exact ⟨_, rfl⟩
  · exact ⟨_, rfl⟩
  · exact ⟨_, rfl⟩
  · cases h

end

/-- The filter of a list without duplicates that lets one element through. -/
theorem filter_eq_singleton {α : Type} {l : List α} {p : α → Bool} {a : α} (hl : l.Nodup)
    (ha : a ∈ l) (hp : p a = true) (h : ∀ b ∈ l, p b = true → b = a) : l.filter p = [a] := by
  have hperm : (l.filter p).Perm [a] := by
    refine (List.perm_ext_iff_of_nodup (hl.filter p) (List.nodup_singleton a)).mpr fun b => ?_
    rw [List.mem_filter, List.mem_singleton]
    constructor
    · exact fun hb => h b hb.1 hb.2
    · rintro rfl
      exact ⟨ha, hp⟩
  exact List.perm_singleton.mp hperm

/-- The rows of a transaction that the pairing looks at. -/
def configuredRows (contracts : ContractAddresses) (id : FacilityId) (rows : List EventRow) :
    List EventRow :=
  rows.filter fun row => row.isConfigured contracts && decide (row.facilityKey = some id.hex)

theorem configuredFor_eq {contracts : ContractAddresses} (id : FacilityId) :
    ∀ {rows : List EventRow}, (∀ row ∈ rows, row.isConfigured contracts = true →
      ∃ key, row.facilityKey = some key) →
      configuredFor contracts id.hex rows = some (configuredRows contracts id rows) := by
  intro rows
  induction rows with
  | nil => exact fun _ => rfl
  | cons row rest ih =>
    intro h
    have hrest := ih fun r hr => h r (List.mem_cons_of_mem _ hr)
    unfold configuredFor configuredRows
    rw [List.filter_cons]
    by_cases hrow : row.isConfigured contracts = true
    · obtain ⟨key, hkey⟩ := h row List.mem_cons_self hrow
      rw [if_pos hrow, hkey, hrest, hrow, lower_hex]
      simp only [Option.bind_eq_bind, Option.bind_some, Bool.true_and, Option.some.injEq,
        decide_eq_true_eq]
      by_cases hid : key = id.hex
      · simp only [if_pos hid]
        rfl
      · simp only [if_neg hid]
        rfl
    · rw [if_neg hrow, hrest]
      simp only [Bool.not_eq_true] at hrow
      rw [hrow]
      rfl

namespace TxRows

variable {contracts : ContractAddresses} {tx : TxIdentity} {placed : List (Int × ProtocolLog)}
  {rows : List EventRow} (h : TxRows contracts tx placed rows)
include h

theorem configured (id : FacilityId) :
    configuredFor contracts id.hex rows = some (configuredRows contracts id rows) := by
  refine configuredFor_eq id fun row hrow hconf => ?_
  rcases h.sound row hrow with (hforeign | ⟨-, -, -, -, hkey⟩) | ⟨p, -, e, he, hshows⟩
  · rw [hforeign] at hconf
    cases hconf
  · unfold EventRow.facilityKey
    cases hlookup : row.decoded.lookup "facilityId" with
    | none => exact ⟨_, rfl⟩
    | some value =>
      obtain ⟨s, rfl⟩ := hkey value hlookup
      exact ⟨_, rfl⟩
  · obtain ⟨k, id', -, -, hkey⟩ := hshows.kind he
    exact ⟨_, hkey⟩

/-- Two rows with one index are one row. -/
theorem row_eq {row row' : EventRow} (hrow : row ∈ rows) (hrow' : row' ∈ rows)
    (hindex : row.logIndex = row'.logIndex) : row = row' :=
  List.inj_on_of_nodup_map h.distinct hrow hrow' hindex

/-- The rows of one kind and facility are those of the placed events of that kind and facility. -/
theorem mem_configuredRows {id : FacilityId} {k : RepaymentKind} {row : EventRow}
    (hrow : row ∈ configuredRows contracts id rows) (hk : row.is k = true) :
    ∃ p ∈ placed, p.2.kind = some (k, id) ∧ row.logIndex = p.1 := by
  obtain ⟨hmem, hprops⟩ := List.mem_filter.mp hrow
  simp only [Bool.and_eq_true, decide_eq_true_eq] at hprops
  rcases h.sound row hmem with (hforeign | ⟨h₁, h₂, h₃, h₄, -⟩) | ⟨p, hp, e, he, hshows⟩
  · rw [hforeign] at hprops
    cases hprops.1
  · cases k with
    | repaid => exact absurd hk (by simp [EventRow.is, h₁])
    | allocated => exact absurd hk (by simp [EventRow.is, h₂])
    | received => exact absurd hk (by simp [EventRow.is, h₃])
    | applied => exact absurd hk (by simp [EventRow.is, h₄])
  · obtain ⟨k', id', hkind, honly, hkey⟩ := hshows.kind he
    obtain rfl := (honly k).mp hk
    rw [hprops.2] at hkey
    obtain rfl := hex_inj (Option.some.inj hkey)
    exact ⟨p, hp, hkind, hshows.logIndex⟩

/-- A placed event has its row. -/
theorem row_of {p : Int × ProtocolLog} {id : FacilityId} {k : RepaymentKind} (hp : p ∈ placed)
    (hkind : p.2.kind = some (k, id)) :
    ∃ row e, p.2.repaymentEvent = some e ∧ row.Shows contracts tx p.1 e ∧
      row ∈ configuredRows contracts id rows ∧ row.is k = true := by
  have hrepayment : p.2.isRepayment = true := by
    rw [ProtocolLog.isRepayment, hkind]
    rfl
  obtain ⟨e, he⟩ := ProtocolLog.repaymentEvent_isSome hrepayment
  obtain ⟨row, hrow, hshows⟩ := h.complete p hp e he
  obtain ⟨k', id', hkind', honly, hkey⟩ := hshows.kind he
  rw [hkind] at hkind'
  cases hkind'
  refine ⟨row, e, he, hshows, List.mem_filter.mpr ⟨hrow, ?_⟩, (honly k).mpr rfl⟩
  simp only [hshows.isConfigured, hkey, Bool.true_and, decide_true]

theorem nodup (id : FacilityId) : (configuredRows contracts id rows).Nodup :=
  (List.Nodup.of_map _ h.distinct).filter _

end TxRows

/-! ### Legs in a list of placed events -/

/-- The repayment events of a list are those of some legs, one leg after the other. -/
def LegsIn (legs : List Leg) (placed : List (Int × ProtocolLog)) : Prop :=
  (placed.map Prod.snd).filter ProtocolLog.isRepayment = legs.flatMap Leg.logs

/-- The repayment events among the placed ones, with their places. -/
def repayments (placed : List (Int × ProtocolLog)) : List (Int × ProtocolLog) :=
  placed.filter fun p => p.2.isRepayment

theorem mem_repayments {placed : List (Int × ProtocolLog)} {p : Int × ProtocolLog}
    {k : RepaymentKind} {id : FacilityId} (hp : p ∈ placed) (hkind : p.2.kind = some (k, id)) :
    p ∈ repayments placed := by
  refine List.mem_filter.mpr ⟨hp, ?_⟩
  rw [ProtocolLog.isRepayment, hkind]
  rfl

theorem LegsIn.map_repayments {legs : List Leg} {placed : List (Int × ProtocolLog)}
    (h : LegsIn legs placed) : (repayments placed).map Prod.snd = legs.flatMap Leg.logs := by
  rw [← h, List.filter_map]
  rfl

/-- The places of the events of one leg. -/
structure LegAt (g : Leg) (at_ : List (Int × ProtocolLog)) (allocated received repaid : Int)
    (marker : List (Int × ProtocolLog)) : Prop where
  places : at_ = (allocated, g.allocated) :: (received, g.received) :: (repaid, g.repaid) :: marker
  marker : marker.map Prod.snd = g.marker

theorem LegAt.of_map {g : Leg} {at_ : List (Int × ProtocolLog)} (h : at_.map Prod.snd = g.logs) :
    ∃ a v r marker, LegAt g at_ a v r marker := by
  obtain ⟨⟨a, x⟩, t₁, rfl, hx, h₁⟩ := List.map_eq_cons_iff.mp h
  obtain ⟨⟨v, y⟩, t₂, rfl, hy, h₂⟩ := List.map_eq_cons_iff.mp h₁
  obtain ⟨⟨r, z⟩, t₃, rfl, hz, h₃⟩ := List.map_eq_cons_iff.mp h₂
  cases hx
  cases hy
  cases hz
  exact ⟨a, v, r, t₃, rfl, h₃⟩

/-- What follows the `Repaid` of a leg is the marker of a settlement. -/
theorem LegAt.marker_kind {g : Leg} {at_ marker : List (Int × ProtocolLog)} {a v r : Int}
    (h : LegAt g at_ a v r marker) {p : Int × ProtocolLog} (hp : p ∈ marker) :
    p.2.kind = some (.applied, g.facilityId) := by
  have hlog : p.2 ∈ g.marker := by
    rw [← h.marker]
    exact List.mem_map_of_mem hp
  unfold Leg.marker at hlog
  split at hlog
  · rw [List.mem_singleton.mp hlog]
    rfl
  · cases hlog
  · cases hlog

/-- Before the legs that come later, each `Allocated` and each `RepaymentReceived` has the `Repaid`
of its leg after it. -/
theorem repaid_after {legs : List Leg} : ∀ {at_ : List (Int × ProtocolLog)},
    at_.map Prod.snd = legs.flatMap Leg.logs → (at_.Pairwise fun p q => p.1 < q.1) →
    ∀ p ∈ at_, ∀ id, p.2.kind = some (.allocated, id) ∨ p.2.kind = some (.received, id) →
      ∃ q ∈ at_, q.2.kind = some (.repaid, id) ∧ p.1 < q.1 := by
  induction legs with
  | nil =>
    intro at_ hmap _ p hp
    rw [List.map_eq_nil_iff.mp hmap] at hp
    cases hp
  | cons g rest ih =>
    intro at_ hmap hasc p hp id hkind
    obtain ⟨own, later, rfl, hown, hlater⟩ := List.map_eq_append_iff.mp hmap
    obtain ⟨hasc₁, hasc₂, -⟩ := List.pairwise_append.mp hasc
    rcases List.mem_append.mp hp with hp | hp
    · obtain ⟨a, v, r, marker, hleg⟩ := LegAt.of_map hown
      have hr : (r, g.repaid) ∈ own := by simp [hleg.places]
      have hplaces := hleg.places
      subst hplaces
      obtain ⟨ha, hasc₁⟩ := List.pairwise_cons.mp hasc₁
      obtain ⟨hv, -⟩ := List.pairwise_cons.mp hasc₁
      have har : a < r := ha (r, g.repaid) (by simp)
      have hvr : v < r := hv (r, g.repaid) (by simp)
      -- Only the first two events of the leg have the kinds asked for.
      rcases List.mem_cons.mp hp with rfl | hp
      · have hid : g.facilityId = id := by
          rcases hkind with hk | hk
          · exact (Prod.mk.inj (Option.some.inj hk)).2
          · cases (Prod.mk.inj (Option.some.inj hk)).1
        exact ⟨_, List.mem_append_left _ hr, hid ▸ g.repaid_kind, har⟩
      rcases List.mem_cons.mp hp with rfl | hp
      · have hid : g.facilityId = id := by
          rcases hkind with hk | hk
          · cases (Prod.mk.inj (Option.some.inj hk)).1
          · exact (Prod.mk.inj (Option.some.inj hk)).2
        exact ⟨_, List.mem_append_left _ hr, hid ▸ g.repaid_kind, hvr⟩
      · have hother : p.2.kind = some (.repaid, g.facilityId) ∨
            p.2.kind = some (.applied, g.facilityId) := by
          rcases List.mem_cons.mp hp with rfl | hp
          · exact .inl g.repaid_kind
          · exact .inr (hleg.marker_kind hp)
        rcases hother with ho | ho <;> rcases hkind with hk | hk <;> rw [ho] at hk <;> cases hk
    · obtain ⟨q, hq, hrest⟩ := ih hlater hasc₂ p hp id hkind
      exact ⟨q, List.mem_append_right _ hq, hrest⟩

/-- A marker has the `Allocated` of its leg before it. -/
theorem allocated_before {legs : List Leg} : ∀ {at_ : List (Int × ProtocolLog)},
    at_.map Prod.snd = legs.flatMap Leg.logs → (at_.Pairwise fun p q => p.1 < q.1) →
    ∀ p ∈ at_, ∀ id, p.2.kind = some (.applied, id) →
      ∃ q ∈ at_, q.2.kind = some (.allocated, id) ∧ q.1 < p.1 := by
  induction legs with
  | nil =>
    intro at_ hmap _ p hp
    rw [List.map_eq_nil_iff.mp hmap] at hp
    cases hp
  | cons g rest ih =>
    intro at_ hmap hasc p hp id hkind
    obtain ⟨own, later, rfl, hown, hlater⟩ := List.map_eq_append_iff.mp hmap
    obtain ⟨hasc₁, hasc₂, -⟩ := List.pairwise_append.mp hasc
    rcases List.mem_append.mp hp with hp | hp
    · obtain ⟨a, v, r, marker, hleg⟩ := LegAt.of_map hown
      have hplaces := hleg.places
      subst hplaces
      obtain ⟨ha, -⟩ := List.pairwise_cons.mp hasc₁
      have hmarker : p ∈ marker := by
        simp only [List.mem_cons] at hp
        rcases hp with rfl | rfl | rfl | hp
        · cases hkind
        · cases hkind
        · rw [g.repaid_kind] at hkind
          cases hkind
        · exact hp
      have hid : g.facilityId = id := by
        have hk := hleg.marker_kind hmarker
        rw [hkind] at hk
        exact (Prod.mk.inj (Option.some.inj hk)).2.symm
      exact ⟨(a, g.allocated), by simp, hid ▸ rfl, ha p (by simp [hmarker])⟩
    · obtain ⟨q, hq, hrest⟩ := ih hlater hasc₂ p hp id hkind
      exact ⟨q, List.mem_append_right _ hq, hrest⟩

/-! ### The amounts -/

section
variable {contracts : ContractAddresses} {tx : TxIdentity} {row : EventRow} {g : Leg}

theorem EventRow.Shows.uint {index : Int} {e : DecodedEvent} (hs : row.Shows contracts tx index e)
    (key : String) {n : Nat} (hn : n < 2 ^ 256) (hlookup : e.args.lookup key = some (decimal n)) :
    row.uint key = some n := by
  unfold EventRow.uint
  rw [hs.decoded, hlookup]
  exact uint_decimal hn

theorem Leg.Sound.words (hg : g.Sound) : g.result.feePaid < 2 ^ 256 ∧
    g.result.interestPaid < 2 ^ 256 ∧ g.result.principalPaid < 2 ^ 256 ∧
    g.result.excess < 2 ^ 256 ∧ g.result.applied < 2 ^ 256 := by
  have hwhole := hg.whole
  have hsplit := hg.split
  have hreceived := hg.received
  omega

/-- The row has the totals of the leg. -/
structure EventRow.Totals (g : Leg) (row : EventRow) : Prop where
  requested : row.uint "requested" = some g.requested
  received : row.uint "received" = some g.result.received
  applied : row.uint "applied" = some g.result.applied
  excess : row.uint "excess" = some g.result.excess
  newDebt : row.uint "newDebt" = some g.result.newDebt

/-- The row has the parts of what was applied. -/
structure EventRow.Parts (g : Leg) (row : EventRow) : Prop where
  feePaid : row.uint "feePaid" = some g.result.feePaid
  interestPaid : row.uint "interestPaid" = some g.result.interestPaid
  principalPaid : row.uint "principalPaid" = some g.result.principalPaid

theorem Leg.Sound.routerRepaid_uint (hg : g.Sound) {index : Int} {e : DecodedEvent}
    (hr : row.Shows contracts tx index e) {ref : Bytes32}
    (he : (g.routerRepaid ref).repaymentEvent = some e) : row.Totals g ∧ row.Parts g := by
  obtain ⟨hfee, hint, hprin, hexcess, happlied⟩ := hg.words
  cases he
  constructor
  · exact ⟨hr.uint _ hg.requested (by simp [List.lookup_cons]),
      hr.uint _ hg.received (by simp [List.lookup_cons]), hr.uint _ happlied (by simp [List.lookup_cons]),
      hr.uint _ hexcess (by simp [List.lookup_cons]), hr.uint _ hg.newDebt (by simp [List.lookup_cons])⟩
  · exact ⟨hr.uint _ hfee (by simp [List.lookup_cons]), hr.uint _ hint (by simp [List.lookup_cons]),
      hr.uint _ hprin (by simp [List.lookup_cons])⟩

/-- Both events `Repaid` have the totals. Only the one of the router has the parts. -/
theorem Leg.Sound.repaid_uint (hg : g.Sound) {index : Int} {e : DecodedEvent}
    (hr : row.Shows contracts tx index e) (he : g.repaid.repaymentEvent = some e) :
    row.Totals g ∧ (row.contractName = "RepaymentRouter" → row.Parts g) := by
  cases hsource : g.source with
  | manager =>
    obtain ⟨-, -, -, hexcess, happlied⟩ := hg.words
    simp only [Leg.repaid, hsource] at he
    cases he
    constructor
    · exact ⟨hr.uint _ hg.requested (by simp [List.lookup_cons]),
        hr.uint _ hg.received (by simp [List.lookup_cons]), hr.uint _ happlied (by simp [List.lookup_cons]),
        hr.uint _ hexcess (by simp [List.lookup_cons]), hr.uint _ hg.newDebt (by simp [List.lookup_cons])⟩
    · intro hname
      have hnames : "CreditFacilityManager" = "RepaymentRouter" := hr.contractName.symm.trans hname
      exact absurd hnames (by decide)
  | router ref =>
    simp only [Leg.repaid, hsource] at he
    obtain ⟨htotals, hparts⟩ := hg.routerRepaid_uint hr he
    exact ⟨htotals, fun _ => hparts⟩
  | settlement id =>
    simp only [Leg.repaid, hsource] at he
    obtain ⟨htotals, hparts⟩ := hg.routerRepaid_uint hr he
    exact ⟨htotals, fun _ => hparts⟩

/-- The amounts of a sound leg pass the last checks. -/
theorem Leg.Sound.checkAmounts (hg : g.Sound) {ia iv ir : Int} {ea ev er : DecodedEvent}
    {allocated vault repaid : EventRow} (ha : allocated.Shows contracts tx ia ea)
    (hea : g.allocated.repaymentEvent = some ea) (hv : vault.Shows contracts tx iv ev)
    (hev : g.received.repaymentEvent = some ev) (hr : repaid.Shows contracts tx ir er)
    (her : g.repaid.repaymentEvent = some er) :
    checkAmounts repaid allocated vault true = some () := by
  obtain ⟨hfee, hint, hprin, hexcess, happlied⟩ := hg.words
  cases hea
  cases hev
  have aFee := ha.uint "feePaid" hfee (by simp [List.lookup_cons])
  have aInterest := ha.uint "interestPaid" hint (by simp [List.lookup_cons])
  have aPrincipal := ha.uint "principalPaid" hprin (by simp [List.lookup_cons])
  have aExcess := ha.uint "excess" hexcess (by simp [List.lookup_cons])
  have aDebt := ha.uint "newDebt" hg.newDebt (by simp [List.lookup_cons])
  have vReceived := hv.uint "received" hg.received (by simp [List.lookup_cons])
  have vApplied := hv.uint "applied" happlied (by simp [List.lookup_cons])
  have vExcess := hv.uint "excess" hexcess (by simp [List.lookup_cons])
  obtain ⟨htotals, hparts⟩ := hg.repaid_uint hr her
  have hguard : (guard (0 < g.result.received ∧
      g.result.received = g.result.applied + g.result.excess ∧
      g.result.applied = g.result.feePaid + g.result.interestPaid + g.result.principalPaid) :
      Option Unit) = some () := if_pos ⟨hg.pos, hg.whole, hg.split⟩
  unfold Rackline.checkAmounts
  simp only [aFee, aInterest, aPrincipal, aExcess, aDebt, vReceived, vApplied, vExcess,
    htotals.requested, htotals.received, htotals.applied, htotals.excess, htotals.newDebt]
  by_cases hname : repaid.contractName = "RepaymentRouter"
  · obtain ⟨hfeePaid, hinterestPaid, hprincipalPaid⟩ := hparts hname
    simp [hname, hfeePaid, hinterestPaid, hprincipalPaid, hguard]
  · simp [hname, hguard]

end

/-! ### The pairing -/

theorem le_max_getD {l : List Int} {x b : Int} (hx : x ∈ l) : x ≤ l.max?.getD b := by
  cases hmax : l.max? with
  | none =>
    rw [List.max?_eq_none_iff.mp hmax] at hx
    cases hx
  | some m => exact (List.max?_eq_some_iff.mp hmax).2 x hx

theorem max_getD_lt {l : List Int} {b c : Int} (h : ∀ x ∈ l, x < c) (hb : b < c) :
    l.max?.getD b < c := by
  cases hmax : l.max? with
  | none => exact hb
  | some m => exact h m (List.max?_eq_some_iff.mp hmax).1

theorem min_all_lt {l : List Int} {x : Int} :
    (l.min?.all fun y => decide (x < y)) = true ↔ ∀ y ∈ l, x < y := by
  cases hmin : l.min? with
  | none => simp [List.min?_eq_none_iff.mp hmin]
  | some m =>
    obtain ⟨hmem, hle⟩ := List.min?_eq_some_iff.mp hmin
    constructor
    · intro h y hy
      have hxm : x < m := by simpa using h
      have := hle y hy
      omega
    · intro h
      simpa using h m hmem

/-- Where a leg lies among the events of its facility: each other event is in a leg that is complete
before it or begins after it, or it is the marker of the leg. -/
structure Window (placed : List (Int × ProtocolLog)) (g : Leg) (a v r : Int) : Prop where
  allocated : (a, g.allocated) ∈ placed
  received : (v, g.received) ∈ placed
  repaid : (r, g.repaid) ∈ placed
  av : a < v
  vr : v < r
  others : ∀ p ∈ placed, ∀ k, p.2.kind = some (k, g.facilityId) →
    (p.1 < a ∧ (k = .allocated ∨ k = .received →
      ∃ q ∈ placed, q.2.kind = some (.repaid, g.facilityId) ∧ p.1 < q.1 ∧ q.1 < a)) ∨
    (p.1 = a ∧ k = .allocated) ∨ (p.1 = v ∧ k = .received) ∨ (p.1 = r ∧ k = .repaid) ∨
    (r < p.1 ∧ (k = .applied → g.settles = true ∨
      ∃ q ∈ placed, q.2.kind = some (.allocated, g.facilityId) ∧ r < q.1 ∧ q.1 < p.1))
  marker : g.settles = true → ∃ p ∈ placed, p.2.kind = some (.applied, g.facilityId) ∧ r < p.1 ∧
    ∀ q ∈ placed, ∀ k, q.2.kind = some (k, g.facilityId) → k = .repaid ∨ k = .allocated →
      r < q.1 → p.1 < q.1

/-- An event of a leg, by its kind. -/
theorem LegAt.mem_cases {g : Leg} {own marker : List (Int × ProtocolLog)} {a v r : Int}
    (h : LegAt g own a v r marker) {p : Int × ProtocolLog} (hp : p ∈ own) {k : RepaymentKind}
    {id : FacilityId} (hkind : p.2.kind = some (k, id)) :
    id = g.facilityId ∧ (k = .allocated ∧ p = (a, g.allocated) ∨ k = .received ∧ p = (v, g.received) ∨
      k = .repaid ∧ p = (r, g.repaid) ∨ k = .applied ∧ p ∈ marker) := by
  rw [h.places] at hp
  simp only [List.mem_cons] at hp
  rcases hp with rfl | rfl | rfl | hp
  · cases hkind
    exact ⟨rfl, .inl ⟨rfl, rfl⟩⟩
  · cases hkind
    exact ⟨rfl, .inr (.inl ⟨rfl, rfl⟩)⟩
  · rw [g.repaid_kind] at hkind
    cases hkind
    exact ⟨rfl, .inr (.inr (.inl ⟨rfl, rfl⟩))⟩
  · rw [h.marker_kind hp] at hkind
    cases hkind
    exact ⟨rfl, .inr (.inr (.inr ⟨rfl, hp⟩))⟩

/-- A leg between other legs. -/
theorem Window.of_legs {placed before own after : List (Int × ProtocolLog)}
    {earlier later : List Leg} {g : Leg} {a v r : Int} {marker : List (Int × ProtocolLog)}
    (hasc : placed.Pairwise fun p q => p.1 < q.1)
    (hplaced : repayments placed = before ++ own ++ after)
    (hbefore : before.map Prod.snd = earlier.flatMap Leg.logs) (hleg : LegAt g own a v r marker)
    (hafter : after.map Prod.snd = later.flatMap Leg.logs) : Window placed g a v r := by
  have hasc : (before ++ own ++ after).Pairwise fun p q => p.1 < q.1 := hplaced ▸ hasc.filter _
  obtain ⟨hasc', hasc₃, hcross₃⟩ := List.pairwise_append.mp hasc
  obtain ⟨hasc₁, hasc₂, hcross₂⟩ := List.pairwise_append.mp hasc'
  have hown := hleg.places
  rw [hown] at hasc₂
  obtain ⟨ha, hasc₂⟩ := List.pairwise_cons.mp hasc₂
  obtain ⟨hv, hasc₂⟩ := List.pairwise_cons.mp hasc₂
  obtain ⟨hr, -⟩ := List.pairwise_cons.mp hasc₂
  have ma : (a, g.allocated) ∈ own := by simp [hown]
  have mv : (v, g.received) ∈ own := by simp [hown]
  have mr : (r, g.repaid) ∈ own := by simp [hown]
  have hmem : ∀ p ∈ before ++ own ++ after, p ∈ placed := fun p hp =>
    (List.mem_filter.mp (hplaced ▸ hp)).1
  have hmid : ∀ p ∈ own, p ∈ placed := fun p hp =>
    hmem p (List.mem_append_left _ (List.mem_append_right _ hp))
  have hav : a < v := ha (v, g.received) (by simp)
  have hvr : v < r := hv (r, g.repaid) (by simp)
  have hsplit : ∀ p ∈ placed, ∀ k id, p.2.kind = some (k, id) →
      p ∈ before ∨ p ∈ own ∨ p ∈ after := by
    intro p hp k id hkind
    have := mem_repayments hp hkind
    rw [hplaced] at this
    simpa [or_assoc] using this
  refine ⟨hmid _ ma, hmid _ mv, hmid _ mr, hav, hvr, ?_, ?_⟩
  · intro p hp k hkind
    rcases hsplit p hp k _ hkind with hp | hp | hp
    · -- A leg before: its `Repaid` comes before this leg.
      refine .inl ⟨hcross₂ p hp _ ma, fun hk => ?_⟩
      have hkinds : p.2.kind = some (.allocated, g.facilityId) ∨
          p.2.kind = some (.received, g.facilityId) := by
        rcases hk with rfl | rfl
        · exact .inl hkind
        · exact .inr hkind
      obtain ⟨q, hq, hqkind, hlt⟩ := repaid_after hbefore hasc₁ p hp g.facilityId hkinds
      exact ⟨q, hmem q (List.mem_append_left _ (List.mem_append_left _ hq)), hqkind, hlt,
        hcross₂ q hq _ ma⟩
    · obtain ⟨-, ⟨hk, rfl⟩ | ⟨hk, rfl⟩ | ⟨hk, rfl⟩ | ⟨hk, hp⟩⟩ := hleg.mem_cases hp hkind
      · exact .inr (.inl ⟨rfl, hk⟩)
      · exact .inr (.inr (.inl ⟨rfl, hk⟩))
      · exact .inr (.inr (.inr (.inl ⟨rfl, hk⟩)))
      · have hsettles : g.settles = true := by
          rw [Leg.settles_iff, ← hleg.marker]
          intro hnone
          rw [List.map_eq_nil_iff.mp hnone] at hp
          cases hp
        exact .inr (.inr (.inr (.inr ⟨hr p hp, fun _ => .inl hsettles⟩)))
    · -- A leg after: its marker has its `Allocated` before it.
      refine .inr (.inr (.inr (.inr ⟨hcross₃ _ (List.mem_append_right _ mr) p hp, ?_⟩)))
      rintro rfl
      obtain ⟨q, hq, hqkind, hlt⟩ := allocated_before hafter hasc₃ p hp g.facilityId hkind
      exact .inr ⟨q, hmem q (List.mem_append_right _ hq), hqkind,
        hcross₃ _ (List.mem_append_right _ mr) q hq, hlt⟩
  · intro hsettles
    rw [Leg.settles_iff, ← hleg.marker] at hsettles
    have hmarker : ∃ p, p ∈ marker := by
      cases marker with
      | nil => exact absurd rfl hsettles
      | cons p rest => exact ⟨p, List.mem_cons_self⟩
    obtain ⟨p, hp⟩ := hmarker
    have mp : p ∈ own := by simp [hown, hp]
    refine ⟨p, hmid p mp, hleg.marker_kind hp, hr p hp, ?_⟩
    intro q hq k hqkind hk hrq
    rcases hsplit q hq k _ hqkind with hq | hq | hq
    · have hqr : q.1 < r := hcross₂ q hq _ mr
      omega
    · obtain ⟨-, ⟨-, rfl⟩ | ⟨-, rfl⟩ | ⟨-, rfl⟩ | ⟨hk', -⟩⟩ := hleg.mem_cases hq hqkind
      · have : r < a := hrq
        omega
      · have : r < v := hrq
        omega
      · exact absurd hrq (lt_irrefl _)
      · rcases hk with rfl | rfl
        · cases hk'
        · cases hk'
    · exact hcross₃ p (List.mem_append_right _ mp) q hq

/-- Each `Repaid` among legs closes one of them. -/
theorem Window.of_repaid {placed : List (Int × ProtocolLog)}
    (hasc : placed.Pairwise fun p q => p.1 < q.1) {p : Int × ProtocolLog} {id : FacilityId}
    (hkind : p.2.kind = some (.repaid, id)) {legs : List Leg} :
    ∀ {before rest : List (Int × ProtocolLog)} {earlier : List Leg},
      repayments placed = before ++ rest → before.map Prod.snd = earlier.flatMap Leg.logs →
      rest.map Prod.snd = legs.flatMap Leg.logs → p ∈ rest →
      ∃ g ∈ legs, ∃ a v, g.facilityId = id ∧ Window placed g a v p.1 := by
  induction legs with
  | nil =>
    intro before rest earlier _ _ hrest hp
    rw [List.map_eq_nil_iff.mp hrest] at hp
    cases hp
  | cons g legs ih =>
    intro before rest earlier hplaced hbefore hrest hp
    obtain ⟨own, after, rfl, hown, hafter⟩ := List.map_eq_append_iff.mp hrest
    rcases List.mem_append.mp hp with hp | hp
    · obtain ⟨a, v, r, marker, hleg⟩ := LegAt.of_map hown
      obtain ⟨rfl, ⟨hk, -⟩ | ⟨hk, -⟩ | ⟨-, rfl⟩ | ⟨hk, -⟩⟩ := hleg.mem_cases hp hkind
      · cases hk
      · cases hk
      · exact ⟨g, List.mem_cons_self, a, v, rfl,
          .of_legs hasc (hplaced.trans (List.append_assoc _ _ _).symm) hbefore hleg hafter⟩
      · cases hk
    · obtain ⟨g', hg', hwindow⟩ := ih (hplaced.trans (List.append_assoc _ _ _).symm) (by
        show _ = (earlier ++ [g]).flatMap Leg.logs
        rw [List.map_append, hbefore, hown, List.flatMap_append]
        simp) hafter hp
      exact ⟨g', List.mem_cons_of_mem _ hg', hwindow⟩

namespace TxRows

variable {contracts : ContractAddresses} {tx : TxIdentity} {placed : List (Int × ProtocolLog)}
  {rows : List EventRow} {g : Leg} {a v r : Int}

/-- The rows that pass a test with the kind `k` and an index that the placed events allow only at
`index` are the one row there. -/
theorem filter_kind (h : TxRows contracts tx placed rows) {id : FacilityId} {row : EventRow}
    {k : RepaymentKind} {p : EventRow → Bool} (hrow : row ∈ configuredRows contracts id rows)
    (hp : p row = true) (hkind : ∀ other, p other = true → other.is k = true)
    (honly : ∀ other, p other = true → ∀ q ∈ placed, q.2.kind = some (k, id) →
      other.logIndex = q.1 → q.1 = row.logIndex) :
    (configuredRows contracts id rows).filter p = [row] := by
  refine filter_eq_singleton (h.nodup id) hrow hp fun other hother hpo => ?_
  obtain ⟨q, hq, hqkind, hindex⟩ := h.mem_configuredRows hother (hkind other hpo)
  refine h.row_eq (List.mem_filter.mp hother).1 (List.mem_filter.mp hrow).1 ?_
  rw [hindex]
  exact honly other hpo q hq hqkind hindex

/-- The last `Repaid` of the facility before the target comes before the leg. -/
theorem previous_lt (h : TxRows contracts tx placed rows) (hw : Window placed g a v r) :
    ((((configuredRows contracts g.facilityId rows).filter fun e =>
      e.isRepaid && decide (e.logIndex < r)).map EventRow.logIndex).max?.getD (-1)) < a := by
  have hnonneg : 0 ≤ a := h.nonneg _ hw.allocated
  refine max_getD_lt (fun x hx => ?_) (by omega)
  obtain ⟨row, hrow, rfl⟩ := List.mem_map.mp hx
  obtain ⟨hrow, hprops⟩ := List.mem_filter.mp hrow
  simp only [Bool.and_eq_true, decide_eq_true_eq] at hprops
  obtain ⟨q, hq, hkind, hindex⟩ := h.mem_configuredRows (k := .repaid) hrow hprops.1
  rcases hw.others q hq _ hkind with ⟨hlt, -⟩ | ⟨-, hk⟩ | ⟨-, hk⟩ | ⟨heq, -⟩ | ⟨hlt, -⟩
  · omega
  · cases hk
  · cases hk
  · omega
  · omega

/-- No `Repaid` of the facility before the target comes after `previous`. -/
theorem le_previous (h : TxRows contracts tx placed rows) {id : FacilityId}
    {q : Int × ProtocolLog} (hq : q ∈ placed) (hkind : q.2.kind = some (.repaid, id))
    (hlt : q.1 < r) :
    q.1 ≤ ((((configuredRows contracts id rows).filter fun e =>
      e.isRepaid && decide (e.logIndex < r)).map EventRow.logIndex).max?.getD (-1)) := by
  obtain ⟨row, e, -, hshows, hrow, hrepaid⟩ := h.row_of hq hkind
  refine le_max_getD (List.mem_map.mpr ⟨row, List.mem_filter.mpr ⟨hrow, ?_⟩, hshows.logIndex⟩)
  have hindex := hshows.logIndex
  have hrepaid' : row.isRepaid = true := hrepaid
  simp only [hrepaid', hindex, Bool.true_and, decide_eq_true_eq]
  exact hlt

/-- Between the leg before and the target there is one event of each of the first two kinds. -/
theorem leg_filter (h : TxRows contracts tx placed rows) (hw : Window placed g a v r)
    {k : RepaymentKind} (hk : k = .allocated ∨ k = .received) {row : EventRow}
    (hrow : row ∈ configuredRows contracts g.facilityId rows) (hrowKind : row.is k = true)
    (hindex : row.logIndex = if k = .allocated then a else v) {previous : Int}
    (hprev : ((((configuredRows contracts g.facilityId rows).filter fun e =>
      e.isRepaid && decide (e.logIndex < r)).map EventRow.logIndex).max?.getD (-1)) = previous) :
    ((configuredRows contracts g.facilityId rows).filter fun e =>
      decide (previous < e.logIndex ∧ e.logIndex < r)).filter (EventRow.is k) = [row] := by
  have hlow : previous < a := hprev ▸ h.previous_lt hw
  have hav := hw.av
  have hvr := hw.vr
  rw [List.filter_filter]
  refine h.filter_kind (k := k) hrow ?_ ?_ ?_
  · simp only [hrowKind, Bool.true_and, decide_eq_true_eq]
    split at hindex
    · omega
    · omega
  · intro other hother
    simp only [Bool.and_eq_true] at hother
    exact hother.1
  · intro other hother q hq hqkind hotherIndex
    simp only [Bool.and_eq_true, decide_eq_true_eq] at hother
    obtain ⟨-, habove, hbelow⟩ := hother
    rcases hw.others q hq _ hqkind with ⟨-, hdone⟩ | ⟨heq, hk'⟩ | ⟨heq, hk'⟩ | ⟨-, hk'⟩ | ⟨hlt, -⟩
    · -- A leg before is closed by its `Repaid`, at or before `previous`.
      obtain ⟨q', hq', hq'kind, hafter, hbefore⟩ := hdone hk
      have := h.le_previous (r := r) hq' hq'kind (by omega)
      rw [hprev] at this
      omega
    · rw [hk'] at hindex
      simp only [if_true] at hindex
      omega
    · rw [hk'] at hindex
      rw [if_neg (by decide)] at hindex
      omega
    · rcases hk with rfl | rfl
      · cases hk'
      · cases hk'
    · omega

/-- The settlement marker is looked for after the `Allocated` and before the next leg. -/
theorem marker_iff (h : TxRows contracts tx placed rows) (hw : Window placed g a v r) :
    ((configuredRows contracts g.facilityId rows).any fun e =>
      e.isApplied && decide (a < e.logIndex) &&
        ((((configuredRows contracts g.facilityId rows).filter fun e =>
          decide (r < e.logIndex) && (e.isRepaid || e.isAllocated)).map
            EventRow.logIndex).min?.all fun next => decide (e.logIndex < next))) = true ↔
      g.settles = true := by
  have hav := hw.av
  have hvr := hw.vr
  rw [List.any_eq_true]
  constructor
  · rintro ⟨row, hrow, hprops⟩
    simp only [Bool.and_eq_true, decide_eq_true_eq] at hprops
    obtain ⟨⟨happlied, hlow⟩, hnext⟩ := hprops
    rw [min_all_lt] at hnext
    obtain ⟨q, hq, hqkind, hindex⟩ := h.mem_configuredRows (k := .applied) hrow happlied
    rcases hw.others q hq _ hqkind with ⟨hlt, -⟩ | ⟨-, hk⟩ | ⟨-, hk⟩ | ⟨-, hk⟩ | ⟨-, hother⟩
    · omega
    · cases hk
    · cases hk
    · cases hk
    · rcases hother rfl with hsettles | ⟨q', hq', hq'kind, hafter, hbefore⟩
      · exact hsettles
      · -- The `Allocated` before a later marker would be the next leg.
        obtain ⟨row', e, -, hshows, hrow', hallocated⟩ := h.row_of hq' hq'kind
        have hallocated' : row'.isAllocated = true := hallocated
        have hindex' := hshows.logIndex
        have := hnext row'.logIndex (List.mem_map.mpr ⟨row', List.mem_filter.mpr ⟨hrow', by
          simp only [hallocated', Bool.or_true, Bool.and_true, decide_eq_true_eq]
          omega⟩, rfl⟩)
        omega
  · intro hsettles
    obtain ⟨p, hp, hpkind, hrp, hfirst⟩ := hw.marker hsettles
    obtain ⟨row, e, -, hshows, hrow, happlied⟩ := h.row_of hp hpkind
    have happlied' : row.isApplied = true := happlied
    have hindex := hshows.logIndex
    refine ⟨row, hrow, ?_⟩
    simp only [happlied', Bool.true_and, Bool.and_eq_true, decide_eq_true_eq]
    refine ⟨by omega, min_all_lt.mpr fun y hy => ?_⟩
    obtain ⟨other, hother, rfl⟩ := List.mem_map.mp hy
    obtain ⟨hother, hprops⟩ := List.mem_filter.mp hother
    simp only [Bool.and_eq_true, decide_eq_true_eq, Bool.or_eq_true] at hprops
    obtain ⟨habove, hkinds⟩ := hprops
    rcases hkinds with hk | hk
    · obtain ⟨q, hq, hqkind, hotherIndex⟩ := h.mem_configuredRows (k := .repaid) hother hk
      have := hfirst q hq _ hqkind (.inl rfl) (by omega)
      omega
    · obtain ⟨q, hq, hqkind, hotherIndex⟩ := h.mem_configuredRows (k := .allocated) hother hk
      have := hfirst q hq _ hqkind (.inr rfl) (by omega)
      omega

/-- The pairing at the `Repaid` of a leg: none for a settlement, else the rows of the leg. -/
theorem pair (h : TxRows contracts tx placed rows) (hg : g.Sound) (hw : Window placed g a v r) :
    (g.settles = true → pairRepaymentEvents rows contracts r g.facilityId.hex true = none) ∧
    (g.settles = false → ∃ repaid allocated vault,
      pairRepaymentEvents rows contracts r g.facilityId.hex true =
        some (repaid, allocated, vault) ∧
      (∃ e, g.repaid.repaymentEvent = some e ∧ repaid.Shows contracts tx r e) ∧
      (∃ e, g.allocated.repaymentEvent = some e ∧ allocated.Shows contracts tx a e) ∧
      ∃ e, g.received.repaymentEvent = some e ∧ vault.Shows contracts tx v e) := by
  obtain ⟨repaid, er, her, hr, hrMem, hrKind⟩ := h.row_of hw.repaid g.repaid_kind
  have hallocated : g.allocated.kind = some (.allocated, g.facilityId) := rfl
  obtain ⟨allocated, ea, hea, ha, haMem, haKind⟩ := h.row_of hw.allocated hallocated
  have hreceived : g.received.kind = some (.received, g.facilityId) := rfl
  obtain ⟨vault, ev, hev, hv, hvMem, hvKind⟩ := h.row_of hw.received hreceived
  have hav := hw.av
  have hra : repaid.logIndex = r := hr.logIndex
  have haa : allocated.logIndex = a := ha.logIndex
  have hvv : vault.logIndex = v := hv.logIndex
  have htarget : (configuredRows contracts g.facilityId rows).filter
      (fun e => e.logIndex == r && e.isRepaid) = [repaid] := by
    refine h.filter_kind (k := .repaid) hrMem ?_ ?_ ?_
    · have hrKind' : repaid.isRepaid = true := hrKind
      simp only [hra, hrKind', beq_self_eq_true, Bool.and_true]
    · intro other hother
      simp only [Bool.and_eq_true] at hother
      exact hother.2
    · intro other hother q hq _ hindex
      simp only [Bool.and_eq_true, beq_iff_eq] at hother
      omega
  have hsame : (configuredRows contracts g.facilityId rows).filter
      (fun e => e.identity == repaid.identity) = configuredRows contracts g.facilityId rows := by
    refine List.filter_eq_self.mpr fun e he => ?_
    rw [h.identity e (List.mem_filter.mp he).1, hr.identity]
    exact beq_self_eq_true _
  unfold pairRepaymentEvents
  rw [h.configured]
  simp only [Option.bind_eq_bind, Option.bind_some, htarget, hsame]
  generalize hprev : ((((configuredRows contracts g.facilityId rows).filter fun e =>
      e.isRepaid && decide (e.logIndex < r)).map EventRow.logIndex).max?.getD (-1)) = previous
  have hleg₁ := h.leg_filter hw (.inl rfl) haMem haKind (by simpa using haa) hprev
  have hleg₂ := h.leg_filter hw (.inr rfl) hvMem hvKind (by simpa using hvv) hprev
  have hmarker := h.marker_iff hw
  have hordered : ¬a ≥ vault.logIndex := by omega
  have hisAllocated : EventRow.is .allocated = EventRow.isAllocated := rfl
  have hisReceived : EventRow.is .received = EventRow.isReceived := rfl
  rw [hisAllocated] at hleg₁
  rw [hisReceived] at hleg₂
  simp only [hleg₁, hleg₂, haa, if_neg hordered]
  constructor
  · intro hsettles
    rw [if_pos (hmarker.mpr hsettles)]
  · intro hdirect
    rw [if_neg (by rw [hmarker, hdirect]; decide), hg.checkAmounts ha hea hv hev hr her]
    exact ⟨repaid, allocated, vault, rfl, ⟨er, her, hr⟩, ⟨ea, hea, ha⟩, ⟨ev, hev, hv⟩⟩

end TxRows

/-! ### Transactions -/

/-- One call by an outsider keeps the protocol in order and appends at most one leg. -/
theorem ProtocolStep.leg {d : Deployment} {t t' : Logged CreditState ProtocolLog} {call : LoggedTx}
    (hi : t.state.Inv d) (h : ProtocolStep d t call t') :
    t'.state.Inv d ∧ Credit.AtMostOneLeg call.call.settles (call.logs d t.state) := by
  obtain ⟨hstep, -⟩ := h
  exact ⟨hstep.inv hi, CreditCall.leg hi.wired hstep.2.1 hstep.2.2.1⟩

/-- What a run appends to the log is a sequence of legs. -/
theorem run_legs {d : Deployment} {s s' : Logged CreditState ProtocolLog} {calls : List LoggedTx}
    (hi : s.state.Inv d) (hrun : Steps (ProtocolStep d) s calls s') :
    s'.state.Inv d ∧ ∃ (more : List ProtocolLog) (legs : List Leg), s'.log = s.log ++ more ∧
      more.filter ProtocolLog.isRepayment = legs.flatMap Leg.logs ∧ ∀ g ∈ legs, g.Sound := by
  induction hrun with
  | nil s => exact ⟨hi, [], [], by simp, rfl, by simp⟩
  | @cons s t u call calls hstep _ ih =>
    obtain ⟨hi', hleg⟩ := hstep.leg hi
    obtain ⟨hinv, more, legs, hlog, hfilter, hsound⟩ := ih hi'
    have hlog' : u.log = s.log ++ (call.logs d s.state ++ more) := by
      rw [hlog, hstep.2, List.append_assoc]
    rcases hleg with ⟨g, hg, -, hown⟩ | hnone
    · refine ⟨hinv, _, g :: legs, hlog', ?_, ?_⟩
      · rw [List.filter_append, hown, hfilter, List.flatMap_cons]
      · intro g' hg'
        rcases List.mem_cons.mp hg' with rfl | hg'
        · exact hg
        · exact hsound g' hg'
    · refine ⟨hinv, _, legs, hlog', ?_, hsound⟩
      rw [List.filter_append, hnone, hfilter, List.nil_append]

/-- The row of a placed event. -/
def RowOf (contracts : ContractAddresses) (tx : TxIdentity) (p : Int × ProtocolLog)
    (row : EventRow) : Prop :=
  ∃ e, p.2.repaymentEvent = some e ∧ row.Shows contracts tx p.1 e

/-- The pairing of a `Repaid` of `id` at `p`, among the events `own` of its call: none if the call
settles a receipt. Otherwise the row of the `Repaid` itself, and those of the one `Allocated` and of
the one `RepaymentReceived` of the call, which are of the same facility. -/
def PairedInCall (contracts : ContractAddresses) (tx : TxIdentity) (rows : List EventRow)
    (own : List (Int × ProtocolLog)) (settles : Bool) (p : Int × ProtocolLog) (id : FacilityId) :
    Prop :=
  if settles = true then pairRepaymentEvents rows contracts p.1 id.hex true = none
  else ∃ repaid allocated vault, ∃ x ∈ own, ∃ y ∈ own,
    pairRepaymentEvents rows contracts p.1 id.hex true = some (repaid, allocated, vault) ∧
    RowOf contracts tx p repaid ∧ RowOf contracts tx x allocated ∧ RowOf contracts tx y vault ∧
    x.2.kind = some (.allocated, id) ∧ y.2.kind = some (.received, id) ∧
    (∀ q ∈ own, ∀ id', q.2.kind = some (.allocated, id') → q = x) ∧
    ∀ q ∈ own, ∀ id', q.2.kind = some (.received, id') → q = y

section
variable {contracts : ContractAddresses} {tx : TxIdentity} {placed : List (Int × ProtocolLog)}
  {rows : List EventRow} (hrows : TxRows contracts tx placed rows)
include hrows

/-- What the pairing finds at a `Repaid` among sound legs comes before that `Repaid`, and after every
earlier `Repaid` of the facility. -/
theorem TxRows.pair_between {legs : List Leg} (hlegs : LegsIn legs placed)
    (hsound : ∀ g ∈ legs, g.Sound) {p : Int × ProtocolLog} {id : FacilityId} (hp : p ∈ placed)
    (hkind : p.2.kind = some (.repaid, id)) {repaid allocated vault : EventRow}
    (hpair : pairRepaymentEvents rows contracts p.1 id.hex true = some (repaid, allocated, vault)) :
    ∃ x ∈ placed, ∃ y ∈ placed, RowOf contracts tx x allocated ∧ RowOf contracts tx y vault ∧
      x.2.kind = some (.allocated, id) ∧ y.2.kind = some (.received, id) ∧
      x.1 < p.1 ∧ y.1 < p.1 ∧
      ∀ q ∈ placed, q.2.kind = some (.repaid, id) → q.1 < p.1 → q.1 < x.1 ∧ q.1 < y.1 := by
  have hnone : ([] : List (Int × ProtocolLog)).map Prod.snd = ([] : List Leg).flatMap Leg.logs := rfl
  obtain ⟨g, hg, a, v, rfl, hw⟩ := Window.of_repaid hrows.ascending hkind
    (List.nil_append (repayments placed)).symm hnone hlegs.map_repayments (mem_repayments hp hkind)
  obtain ⟨hsettled, hdirect⟩ := hrows.pair (hsound g hg) hw
  cases hs : g.settles with
  | true =>
    rw [hsettled hs] at hpair
    cases hpair
  | false =>
    obtain ⟨repaid', allocated', vault', hpair', -, ha, hv⟩ := hdirect hs
    rw [hpair] at hpair'
    cases hpair'
    have hav := hw.av
    have hvr := hw.vr
    refine ⟨_, hw.allocated, _, hw.received, ha, hv, rfl, rfl, ?_, hvr, ?_⟩
    · show a < p.1
      omega
    · intro q hq hqkind hlt
      show q.1 < a ∧ q.1 < v
      rcases hw.others q hq _ hqkind with ⟨hqa, -⟩ | ⟨-, hk⟩ | ⟨-, hk⟩ | ⟨heq, -⟩ | ⟨hrq, -⟩
      · omega
      · cases hk
      · cases hk
      · omega
      · omega

/-- One index, one event. -/
theorem TxRows.placed_eq {x y : Int × ProtocolLog} (hx : x ∈ placed) (hy : y ∈ placed)
    (h : x.1 = y.1) : x = y := by
  have hnodup : (placed.map Prod.fst).Nodup := by
    rw [List.nodup_iff_pairwise_ne, List.pairwise_map]
    exact hrows.ascending.imp fun hlt => ne_of_lt hlt
  exact List.inj_on_of_nodup_map hnodup hx hy h

/-- Two `Repaid` share neither an `Allocated` nor a `RepaymentReceived`. -/
theorem TxRows.pair_disjoint {legs : List Leg} (hlegs : LegsIn legs placed)
    (hsound : ∀ g ∈ legs, g.Sound) {p q : Int × ProtocolLog} {id id' : FacilityId} (hp : p ∈ placed)
    (hq : q ∈ placed) (hpkind : p.2.kind = some (.repaid, id))
    (hqkind : q.2.kind = some (.repaid, id')) (hlt : p.1 < q.1)
    {repaid allocated vault repaid' allocated' vault' : EventRow}
    (hpair : pairRepaymentEvents rows contracts p.1 id.hex true = some (repaid, allocated, vault))
    (hpair' : pairRepaymentEvents rows contracts q.1 id'.hex true =
      some (repaid', allocated', vault')) : allocated ≠ allocated' ∧ vault ≠ vault' := by
  obtain ⟨x, hx, y, hy, ⟨_, -, hxrow⟩, ⟨_, -, hyrow⟩, hxkind, hykind, hxp, hyp, -⟩ :=
    hrows.pair_between hlegs hsound hp hpkind hpair
  obtain ⟨x', hx', y', hy', ⟨_, -, hxrow'⟩, ⟨_, -, hyrow'⟩, hxkind', hykind', -, -, hbetween⟩ :=
    hrows.pair_between hlegs hsound hq hqkind hpair'
  -- A shared row would be one event of one facility, before `p` and after it.
  constructor
  · rintro rfl
    obtain rfl := hrows.placed_eq hx hx' (hxrow.logIndex.symm.trans hxrow'.logIndex)
    rw [hxkind] at hxkind'
    cases hxkind'
    have := (hbetween p hp hpkind hlt).1
    omega
  · rintro rfl
    obtain rfl := hrows.placed_eq hy hy' (hyrow.logIndex.symm.trans hyrow'.logIndex)
    rw [hykind] at hykind'
    cases hykind'
    have := (hbetween p hp hpkind hlt).2
    omega

/-- The `Repaid` of a call is paired within the call. -/
theorem TxRows.paired_in_call {before own after : List (Int × ProtocolLog)}
    {earlier later : List Leg} {settles : Bool} (hplaced : placed = before ++ own ++ after)
    (hbefore : LegsIn earlier before)
    (hown : Credit.AtMostOneLeg settles (own.map Prod.snd)) (hafter : LegsIn later after)
    {p : Int × ProtocolLog} {id : FacilityId} (hp : p ∈ own)
    (hkind : p.2.kind = some (.repaid, id)) :
    PairedInCall contracts tx rows own settles p id := by
  have hmap : (repayments own).map Prod.snd =
      (own.map Prod.snd).filter ProtocolLog.isRepayment := by
    rw [List.filter_map]
    rfl
  have hmem := mem_repayments hp hkind
  rcases hown with ⟨g, hsound, rfl, hlogs⟩ | hnone
  · obtain ⟨a, v, r, marker, hleg⟩ := LegAt.of_map (hmap.trans hlogs)
    obtain ⟨rfl, ⟨hk, -⟩ | ⟨hk, -⟩ | ⟨-, rfl⟩ | ⟨hk, -⟩⟩ := hleg.mem_cases hmem hkind
    · cases hk
    · cases hk
    · have hsplit : repayments placed = repayments before ++ repayments own ++ repayments after := by
        rw [hplaced]
        show (before ++ own ++ after).filter _ = _
        rw [List.filter_append, List.filter_append]
        rfl
      have hw : Window placed g a v r := .of_legs hrows.ascending hsplit hbefore.map_repayments hleg
        hafter.map_repayments
      obtain ⟨hsettled, hdirect⟩ := hrows.pair hsound hw
      unfold PairedInCall
      split
      · rename_i hs
        exact hsettled hs
      · rename_i hs
        obtain ⟨repaid, allocated, vault, hpair, hr, ha, hv⟩ := hdirect (by simpa using hs)
        have hmemOwn : ∀ q ∈ repayments own, q ∈ own := fun q hq => (List.mem_filter.mp hq).1
        refine ⟨repaid, allocated, vault, (a, g.allocated), hmemOwn _ (by simp [hleg.places]),
          (v, g.received), hmemOwn _ (by simp [hleg.places]), hpair, hr, ha, hv, rfl, rfl, ?_, ?_⟩
        · intro q hq id' hqkind
          obtain ⟨-, ⟨-, h⟩ | ⟨hk, -⟩ | ⟨hk, -⟩ | ⟨hk, -⟩⟩ :=
            hleg.mem_cases (mem_repayments hq hqkind) hqkind
          · exact h
          · cases hk
          · cases hk
          · cases hk
        · intro q hq id' hqkind
          obtain ⟨-, ⟨hk, -⟩ | ⟨-, h⟩ | ⟨hk, -⟩ | ⟨hk, -⟩⟩ :=
            hleg.mem_cases (mem_repayments hq hqkind) hqkind
          · cases hk
          · exact h
          · cases hk
          · cases hk
    · cases hk
  · have hempty : repayments own = [] := List.map_eq_nil_iff.mp (hmap.trans hnone)
    rw [hempty] at hmem
    cases hmem

end

/-- In every transaction, whatever calls it makes: the `Repaid` of a call is paired with the
`Allocated` and the `RepaymentReceived` of that very call, or with nothing if the call settles a
receipt; and no two `Repaid` of the transaction share one of these logs. -/
theorem repayments_paired {d : Deployment} {s : CreditState} (hs : CreditReachable d s)
    {pre post : List LoggedTx} {call : LoggedTx} {t t' s' : Logged CreditState ProtocolLog}
    (hpre : Steps (ProtocolStep d) ⟨s, []⟩ pre t) (hcall : ProtocolStep d t call t')
    (hpost : Steps (ProtocolStep d) t' post s') {contracts : ContractAddresses} {tx : TxIdentity}
    {placed : List (Int × ProtocolLog)} {rows : List EventRow}
    (hrows : TxRows contracts tx placed rows) (hplaced : placed.map Prod.snd = s'.log) :
    (∃ before own after, placed = before ++ own ++ after ∧ before.map Prod.snd = t.log ∧
      own.map Prod.snd = call.logs d t.state ∧ ∀ p ∈ own, ∀ id, p.2.kind = some (.repaid, id) →
        PairedInCall contracts tx rows own call.call.settles p id) ∧
    ∀ p ∈ placed, ∀ q ∈ placed, ∀ id id', p.2.kind = some (.repaid, id) →
      q.2.kind = some (.repaid, id') → p ≠ q → ∀ r a v r' a' v',
      pairRepaymentEvents rows contracts p.1 id.hex true = some (r, a, v) →
      pairRepaymentEvents rows contracts q.1 id'.hex true = some (r', a', v') → a ≠ a' ∧ v ≠ v' := by
  obtain ⟨hi, before, earlier, hbefore, hbeforeLegs, -⟩ := run_legs hs.inv hpre
  obtain ⟨hi', hleg⟩ := hcall.leg hi
  obtain ⟨-, after, later, hafter, hafterLegs, -⟩ := run_legs hi' hpost
  constructor
  · have hlog : placed.map Prod.snd = t.log ++ call.logs d t.state ++ after := by
      rw [hplaced, hafter, hcall.2]
    obtain ⟨front, last, rfl, hfront, hlast⟩ := List.map_eq_append_iff.mp hlog
    obtain ⟨first, own, rfl, hfirst, hown⟩ := List.map_eq_append_iff.mp hfront
    have hearlier : LegsIn earlier first := by
      show (first.map Prod.snd).filter ProtocolLog.isRepayment = _
      rw [hfirst, hbefore]
      exact hbeforeLegs
    have hlater : LegsIn later last := by
      show (last.map Prod.snd).filter ProtocolLog.isRepayment = _
      rw [hlast]
      exact hafterLegs
    rw [← hown] at hleg
    exact ⟨first, own, last, rfl, hfirst, hown, fun p hp id hkind =>
      hrows.paired_in_call rfl hearlier hleg hlater hp hkind⟩
  · intro p hp q hq id id' hpkind hqkind hne r a v r' a' v' hpair hpair'
    obtain ⟨-, all, legs, hall, hlegs, hsound⟩ := run_legs hs.inv (hpre.append (.cons hcall hpost))
    have hlegs' : LegsIn legs placed := by
      show (placed.map Prod.snd).filter ProtocolLog.isRepayment = _
      rw [hplaced, hall]
      exact hlegs
    rcases lt_trichotomy p.1 q.1 with hlt | heq | hlt
    · exact hrows.pair_disjoint hlegs' hsound hp hq hpkind hqkind hlt hpair hpair'
    · exact absurd (hrows.placed_eq hp hq heq) hne
    · obtain ⟨ha, hv⟩ := hrows.pair_disjoint hlegs' hsound hq hp hqkind hpkind hlt hpair' hpair
      exact ⟨ha.symm, hv.symm⟩

/-! ### A transaction to evaluate -/

/-- Consecutive places. -/
def placesFrom (first : Int) : List ProtocolLog → List (Int × ProtocolLog)
  | [] => []
  | log :: rest => (first, log) :: placesFrom (first + 1) rest

theorem placesFrom_map (logs : List ProtocolLog) (first : Int) :
    (placesFrom first logs).map Prod.snd = logs := by
  induction logs generalizing first with
  | nil => rfl
  | cons log rest ih =>
    show log :: (placesFrom (first + 1) rest).map Prod.snd = _
    rw [ih]

theorem placesFrom_le (logs : List ProtocolLog) (first : Int) : ∀ p ∈ placesFrom first logs, first ≤ p.1 := by
  induction logs generalizing first with
  | nil =>
    intro p hp
    cases hp
  | cons log rest ih =>
    intro p hp
    rcases List.mem_cons.mp hp with rfl | hp
    · exact le_rfl
    · have := ih (first + 1) p hp
      omega

theorem placesFrom_ascending (logs : List ProtocolLog) (first : Int) :
    (placesFrom first logs).Pairwise fun p q => p.1 < q.1 := by
  induction logs generalizing first with
  | nil => exact .nil
  | cons log rest ih =>
    refine .cons (fun p hp => ?_) (ih (first + 1))
    have := placesFrom_le rest (first + 1) p hp
    show first < p.1
    omega

/-- The row of a decoded event. -/
def eventRowAt (address : String → HexString) (tx : TxIdentity) (index : Int) (e : DecodedEvent) :
    EventRow :=
  { txHash := tx.1, blockNumber := tx.2.1, blockHash := tx.2.2.1, txIndex := tx.2.2.2,
    logIndex := index, address := address e.contract, contractName := e.contract,
    eventName := e.event, decoded := e.args }

/-- The rows of the repayment events, and no others. -/
def eventRows (address : String → HexString) (tx : TxIdentity) (placed : List (Int × ProtocolLog)) :
    List EventRow :=
  placed.filterMap fun p => p.2.repaymentEvent.map (eventRowAt address tx p.1)

theorem eventRows_txRows (address : String → HexString) (tx : TxIdentity) {first : Int}
    (hfirst : 0 ≤ first) (logs : List ProtocolLog) :
    TxRows (fun name => some (address name)) tx (placesFrom first logs)
      (eventRows address tx (placesFrom first logs)) := by
  have hshows : ∀ p e, (eventRowAt address tx p e).Shows (fun name => some (address name)) tx p e :=
    fun p e => ⟨rfl, rfl, rfl, rfl, rfl, _, rfl, rfl⟩
  have hmem : ∀ row ∈ eventRows address tx (placesFrom first logs), ∃ p ∈ placesFrom first logs, ∃ e,
      p.2.repaymentEvent = some e ∧ row = eventRowAt address tx p.1 e := by
    intro row hrow
    obtain ⟨p, hp, hat⟩ := List.mem_filterMap.mp hrow
    obtain ⟨e, he, hrowAt⟩ := Option.map_eq_some_iff.mp hat
    exact ⟨p, hp, e, he, hrowAt.symm⟩
  refine ⟨?_, ?_, placesFrom_ascending logs first, ?_, ?_, ?_⟩
  · intro row hrow
    obtain ⟨p, -, e, -, rfl⟩ := hmem row hrow
    exact (hshows p.1 e).identity
  · rw [List.nodup_iff_pairwise_ne, List.pairwise_map]
    refine (List.Pairwise.filterMap _ ?_ (placesFrom_ascending logs first)).imp fun hlt => ne_of_lt hlt
    intro p q hlt row hrow row' hrow'
    obtain ⟨e, -, rfl⟩ := Option.map_eq_some_iff.mp hrow
    obtain ⟨e', -, rfl⟩ := Option.map_eq_some_iff.mp hrow'
    exact hlt
  · intro p hp
    have := placesFrom_le logs first p hp
    omega
  · intro p hp e he
    refine ⟨_, List.mem_filterMap.mpr ⟨p, hp, ?_⟩, hshows p.1 e⟩
    rw [he, Option.map_some]
  · intro row hrow
    obtain ⟨p, hp, e, he, rfl⟩ := hmem row hrow
    exact .inr ⟨p, hp, e, he, hshows p.1 e⟩

namespace Sample

/-- A call whose settlement reference is not zero. -/
def loggedTx (sender : Address) (now : Nat) (call : CreditCall) : LoggedTx :=
  { tx sender now call with settlementRef := 3 }

/-- One address for each name. -/
def namedAddress (name : String) : HexString := name.toList

/-- The identity of a transaction in block 1. -/
def identity : TxIdentity := (['0', 'x'], 1, ['0', 'x'], 0)

/-- A direct repayment through the router. -/
def directRepayment : LoggedTx := loggedTx 8 20 (.router (.repayFor 5 100))

/-- A settlement and a repayment through the manager, in the same transaction. -/
def otherRepayments : List LoggedTx :=
  [loggedTx 7 20 (.router (.receiveSettlement 5 4 200)), loggedTx 8 20 (.manager (.repayFor 5 100))]

end Sample

/-- Three repayments of one facility in one transaction: the first is paired. -/
theorem repayments_paired_sample :
    ∃ (s : CreditState) (t' s' : Logged CreditState ProtocolLog),
      CreditReachable Sample.protocol s ∧
      ProtocolStep Sample.protocol ⟨s, []⟩ Sample.directRepayment t' ∧
      Steps (ProtocolStep Sample.protocol) t' Sample.otherRepayments s' ∧
      ∃ p ∈ placesFrom 0 s'.log, p.2.kind = some (.repaid, 5) ∧ ∃ repaid allocated vault,
        pairRepaymentEvents (eventRows Sample.namedAddress Sample.identity (placesFrom 0 s'.log))
          (fun name => some (Sample.namedAddress name)) p.1 (Bytes32.hex 5) true =
            some (repaid, allocated, vault) := by
  obtain ⟨s, hrun, hview⟩ := CreditState.run_view Sample.protocol Sample.creditDeployment
    (Sample.activeFacility 100000 50000) (fun s =>
      ((runLogs Sample.protocol ⟨s, []⟩
          (Sample.directRepayment :: Sample.otherRepayments)).toOption.isSome,
        (Sample.directRepayment.logs Sample.protocol s).any fun log =>
          decide (log.kind = some (.repaid, 5)))) (v := (true, true)) (by decide +kernel)
  simp only [Prod.mk.injEq] at hview
  obtain ⟨hsome, hany⟩ := hview
  obtain ⟨s', hs'⟩ := Option.isSome_iff_exists.mp hsome
  cases runLogs_steps (toOption_eq_some.mp hs') with
  | @cons _ t' _ _ _ hcall hpost =>
    have hreach : CreditReachable Sample.protocol s :=
      ⟨_, _, Sample.creditDeployment_initial, CreditState.run_steps hrun⟩
    have hrows := eventRows_txRows Sample.namedAddress Sample.identity le_rfl s'.log
    obtain ⟨⟨before, own, after, hplaced, -, hown, hpaired⟩, -⟩ :=
      repayments_paired hreach (.nil _) hcall hpost hrows (placesFrom_map s'.log 0)
    obtain ⟨log, hlog, hkind⟩ := List.any_eq_true.mp hany
    rw [← hown] at hlog
    obtain ⟨p, hp, rfl⟩ := List.mem_map.mp hlog
    have hpkind : p.2.kind = some (.repaid, 5) := of_decide_eq_true hkind
    have hmem : p ∈ placesFrom 0 s'.log := by
      rw [hplaced]
      exact List.mem_append_left _ (List.mem_append_right _ hp)
    have hpair := hpaired p hp 5 hpkind
    have hdirect : ¬CreditCall.settles Sample.directRepayment.call = true := by decide
    unfold PairedInCall at hpair
    rw [if_neg hdirect] at hpair
    obtain ⟨repaid, allocated, vault, -, -, -, -, hsome, -⟩ := hpair
    exact ⟨s, t', s', hreach, hcall, hpost, p, hmem, hpkind, repaid, allocated, vault, hsome⟩

end Rackline
