import Mathlib.Data.List.Nodup
import Rackline.TxIntents

/-!
# `Rackline.Proofs.NonceSlots`: the nonces of a signer

A chain takes the transactions of a signer in the order of their nonces, so between the pending
count and a nonce that an intent holds no nonce may be free, unless it is the next to be handed
out.

`allocate_nonce` hands out a nonce above every held one. A nonce that is freed below a held one is
therefore not handed out again while that one is held, and the held transaction waits for it. So
the guarantee holds for the runs in which an intent that is given up is the last one that the
signer holds, or below the pending count, and in which the pending count falls back over held
nonces only. It holds for no others.

`SlotEffect` says once what an action does to the held nonces, and `Sound.fail` what the failure of
an intent does.
-/

set_option autoImplicit false

namespace Rackline

open Evm Transition

/-! ### The guarantee -/

/-- Some intent holds the nonce. -/
def TxTable.Holds (t : TxTable) (nonce : Nat) : Prop :=
  ∃ i ∈ t.rows, i.nonce = nonce ∧ i.holdsNonce = true

/-- Between the pending count and a held nonce, each nonce is held or the next to be handed out. -/
def SlotState.NoHoles (s : SlotState) : Prop :=
  ∀ nonce, s.table.Holds nonce → ∀ m, s.pendingCount ≤ m → m < nonce →
    s.table.Holds m ∨ s.table.allocateNonce s.pendingCount = m

/-- If the intent has no hash, its nonce is below the pending count or above every other that is
held. -/
def SlotState.LastHeld (s : SlotState) (txIntentId : String) : Prop :=
  ∀ i ∈ s.table.rows, i.txIntentId = txIntentId → i.txHash = none → s.pendingCount ≤ i.nonce →
    ∀ nonce, s.table.Holds nonce → nonce ≤ i.nonce

/-- The action gives up no nonce below a held one, and takes the pending count back over held ones
only. -/
def SlotAction.KeepsSlots (s : SlotState) : SlotAction → Prop
  | chain pendingCount => ∀ m nonce, pendingCount ≤ m → m < s.pendingCount → m < nonce →
      s.table.Holds nonce → s.table.Holds m
  | markMined id _ receiptStatus => receiptStatus = 1 ∨ s.LastHeld id
  | abandon id _ => s.LastHeld id
  | _ => True

/-! ### Allocation -/

namespace TxTable

variable {t t' : TxTable} {nonce m pendingCount : Nat} {i cur : Intent} {id : String}

theorem highestHoldingNonce_eq_some : t.highestHoldingNonce = some nonce ↔
    t.Holds nonce ∧ ∀ m, t.Holds m → m ≤ nonce := by
  have hmem : ∀ m, m ∈ (t.rows.filter Intent.holdsNonce).map Intent.nonce ↔ t.Holds m := by
    intro m
    simp only [Holds, List.mem_map, List.mem_filter, and_assoc]
    exact exists_congr fun i => and_congr_right fun _ => and_comm
  unfold highestHoldingNonce
  rw [List.max?_eq_some_iff]
  simp only [hmem]

theorem highestHoldingNonce_eq_none (h : t.highestHoldingNonce = none) : ¬t.Holds nonce := by
  rintro ⟨i, hi, -, hholds⟩
  unfold highestHoldingNonce at h
  rw [List.max?_eq_none_iff, List.map_eq_nil_iff, List.filter_eq_nil_iff] at h
  exact h i hi hholds

/-- What is handed out is above every held nonce. -/
theorem Holds.lt_allocateNonce (h : t.Holds nonce) (pendingCount : Nat) :
    nonce < t.allocateNonce pendingCount := by
  unfold allocateNonce
  cases hmax : t.highestHoldingNonce with
  | none => exact absurd h (highestHoldingNonce_eq_none hmax)
  | some recorded =>
    have hle := (highestHoldingNonce_eq_some.mp hmax).2 nonce h
    show nonce < max (recorded + 1) pendingCount
    omega

/-- A nonce below it that is not below the pending count is at or below a held one. -/
theorem exists_holds_of_lt_allocateNonce (hlow : pendingCount ≤ m)
    (hlt : m < t.allocateNonce pendingCount) : ∃ nonce, t.Holds nonce ∧ m ≤ nonce := by
  unfold allocateNonce at hlt
  cases hmax : t.highestHoldingNonce with
  | none =>
    rw [hmax] at hlt
    simp only at hlt
    omega
  | some recorded =>
    rw [hmax] at hlt
    simp only at hlt
    exact ⟨recorded, (highestHoldingNonce_eq_some.mp hmax).1, by omega⟩

end TxTable

/-- Between the pending count and a held nonce, each nonce is held. -/
theorem SlotState.noHoles_iff {s : SlotState} : s.NoHoles ↔
    ∀ nonce, s.table.Holds nonce → ∀ m, s.pendingCount ≤ m → m < nonce → s.table.Holds m := by
  refine forall_congr' fun nonce => forall_congr' fun hholds => forall_congr' fun m =>
    forall_congr' fun hlow => forall_congr' fun hlt => ?_
  have habove := hholds.lt_allocateNonce s.pendingCount
  constructor
  · rintro (hm | hm)
    · exact hm
    · omega
  · exact .inl

/-! ### What an action does -/

/-- No two rows have one id or one nonce. -/
structure TxTable.Sound (t : TxTable) : Prop where
  ids : (t.rows.map Intent.txIntentId).Nodup
  nonces : (t.rows.map Intent.nonce).Nodup

namespace TxTable

variable {t t' : TxTable} {nonce m pendingCount : Nat} {i cur : Intent} {id : String}

theorem initial_sound : TxTable.initial.Sound := ⟨.nil, .nil⟩

theorem get_ok (h : t.get id = .ok cur) : cur ∈ t.rows ∧ cur.txIntentId = id := by
  unfold get at h
  split at h
  · cases h
  · rename_i i hfind
    cases h
    exact ⟨List.mem_of_find?_eq_some hfind, by simpa using List.find?_some hfind⟩

theorem update_ok (h : t.update i = .ok t') : i.Checks ∧ t' = t.set i := by
  obtain ⟨_, hguard, h⟩ := bind_eq_ok.mp h
  have hnot := revertIf_eq_ok.mp hguard
  cases h
  exact ⟨Classical.not_not.mp fun hbad => hnot (.inl hbad), rfl⟩

theorem Sound.eq_of_id (h : t.Sound) {r r' : Intent} (hr : r ∈ t.rows) (hr' : r' ∈ t.rows)
    (hid : r.txIntentId = r'.txIntentId) : r = r' :=
  List.inj_on_of_nodup_map h.ids hr hr' hid

theorem Sound.eq_of_nonce (h : t.Sound) {r r' : Intent} (hr : r ∈ t.rows) (hr' : r' ∈ t.rows)
    (hnonce : r.nonce = r'.nonce) : r = r' :=
  List.inj_on_of_nodup_map h.nonces hr hr' hnonce

theorem Sound.holds_iff (h : t.Sound) (hcur : cur ∈ t.rows) :
    t.Holds cur.nonce ↔ cur.holdsNonce = true := by
  constructor
  · rintro ⟨i, hi, hnonce, hholds⟩
    rw [← h.eq_of_nonce hi hcur hnonce]
    exact hholds
  · exact fun hholds => ⟨cur, hcur, rfl, hholds⟩

/-- A row that keeps its id and its nonce keeps the table in order. -/
theorem Sound.set (h : t.Sound) (hcur : cur ∈ t.rows) (hid : i.txIntentId = cur.txIntentId)
    (hnonce : i.nonce = cur.nonce) : (t.set i).Sound := by
  have hrow : ∀ r ∈ t.rows, (if r.txIntentId = i.txIntentId then i else r).txIntentId =
      r.txIntentId ∧ (if r.txIntentId = i.txIntentId then i else r).nonce = r.nonce := by
    intro r hr
    split
    · rename_i hsame
      rw [h.eq_of_id hr hcur (hsame.trans hid)]
      exact ⟨hid, hnonce⟩
    · exact ⟨rfl, rfl⟩
  have hids : (t.set i).rows.map Intent.txIntentId = t.rows.map Intent.txIntentId := by
    show (t.rows.map _).map _ = _
    rw [List.map_map]
    exact List.map_congr_left fun r hr => (hrow r hr).1
  have hnonces : (t.set i).rows.map Intent.nonce = t.rows.map Intent.nonce := by
    show (t.rows.map _).map _ = _
    rw [List.map_map]
    exact List.map_congr_left fun r hr => (hrow r hr).2
  exact ⟨hids ▸ h.ids, hnonces ▸ h.nonces⟩

/-- Of the held nonces only the one of the row can change. -/
theorem Sound.holds_set (h : t.Sound) (hcur : cur ∈ t.rows) (hid : i.txIntentId = cur.txIntentId)
    (hnonce : i.nonce = cur.nonce) (m : Nat) : (t.set i).Holds m ↔
      if m = cur.nonce then i.holdsNonce = true else t.Holds m := by
  have hsound := h.set hcur hid hnonce
  have hi : i ∈ (t.set i).rows :=
    List.mem_map.mpr ⟨cur, hcur, if_pos hid.symm⟩
  split
  · rename_i hm
    rw [hm, ← hnonce]
    exact hsound.holds_iff hi
  · rename_i hm
    constructor
    · rintro ⟨r, hr, rfl, hholds⟩
      obtain ⟨r₀, hr₀, heq⟩ := List.mem_map.mp hr
      split at heq
      · rw [← heq] at hm
        exact absurd hnonce hm
      · rw [← heq] at hholds ⊢
        exact ⟨r₀, hr₀, rfl, hholds⟩
    · rintro ⟨r, hr, rfl, hholds⟩
      refine ⟨r, List.mem_map.mpr ⟨r, hr, if_neg fun hsame => ?_⟩, rfl, hholds⟩
      rw [h.eq_of_id hr hcur (hsame.trans hid)] at hm
      exact hm rfl

end TxTable

/-- What an action that fails no intent does to the held nonces. -/
inductive SlotEffect (pendingCount : Nat) (t t' : TxTable) : Prop
  | keep : (∀ m, t'.Holds m ↔ t.Holds m) → SlotEffect pendingCount t t'
  | take : (∀ m, t'.Holds m ↔ t.Holds m ∨ m = t.allocateNonce pendingCount) →
      SlotEffect pendingCount t t'

namespace TxTable

variable {t₀ t t' : TxTable} {nonce m pendingCount : Nat} {i cur : Intent} {id : String}
  {signed : SignedTx} {target : IntentState} {setSql : Intent → Intent}

/-- A row that goes on holding its nonce, or goes on not holding it. -/
theorem Sound.keep (h : t.Sound) (hcur : cur ∈ t.rows) (hid : i.txIntentId = cur.txIntentId)
    (hnonce : i.nonce = cur.nonce) (hsame : i.holdsNonce = cur.holdsNonce) :
    SlotEffect pendingCount t (t.set i) := by
  refine .keep fun m => ?_
  rw [h.holds_set hcur hid hnonce]
  split
  · rename_i hm
    rw [hm, hsame]
    exact (h.holds_iff hcur).symm
  · rfl

theorem transition_ok (h : t.transition id target setSql = .ok t') :
    ∃ cur ∈ t.rows, cur.txIntentId = id ∧ (target = cur.state ∨ target ∈ cur.state.transitions) ∧
      ({ setSql cur with state := target } : Intent).Checks ∧
      t' = t.set { setSql cur with state := target } := by
  obtain ⟨cur, hget, h⟩ := bind_eq_ok.mp h
  obtain ⟨_, hguard, h⟩ := bind_eq_ok.mp h
  obtain ⟨hcur, hid⟩ := get_ok hget
  obtain ⟨hchecks, rfl⟩ := update_ok h
  have hallowed := revertIf_eq_ok.mp hguard
  exact ⟨cur, hcur, hid, by tauto, hchecks, rfl⟩

/-- A transition to another state than `FAILED` is one of an intent that holds its nonce. -/
theorem Sound.transition (h : t.Sound) (hok : t.transition id target setSql = .ok t')
    (htarget : target ≠ .FAILED)
    (hset : ∀ i, (setSql i).txIntentId = i.txIntentId ∧ (setSql i).nonce = i.nonce) :
    t'.Sound ∧ SlotEffect pendingCount t t' := by
  obtain ⟨cur, hcur, -, hallowed, -, rfl⟩ := transition_ok hok
  obtain ⟨hid, hnonce⟩ := hset cur
  refine ⟨h.set hcur hid hnonce, h.keep hcur hid hnonce ?_⟩
  have hopen : cur.state ≠ .FAILED := by
    intro hfailed
    rw [hfailed] at hallowed
    rcases hallowed with hsame | hnone
    · exact htarget hsame
    · cases hnone
  simp [Intent.holdsNonce, htarget, hopen]

/-- A transition to `FAILED` gives up the nonce of an intent without a hash. -/
theorem Sound.fail (h : t.Sound) (hok : t.transition id .FAILED setSql = .ok t')
    (hset : ∀ i, (setSql i).txIntentId = i.txIntentId ∧ (setSql i).nonce = i.nonce ∧
      (setSql i).txHash = i.txHash) :
    t'.Sound ∧ ∃ cur ∈ t.rows, cur.txIntentId = id ∧
      ((cur.txHash.isSome = true ∧ ∀ m, t'.Holds m ↔ t.Holds m) ∨
        cur.txHash = none ∧ ∀ m, t'.Holds m ↔ t.Holds m ∧ m ≠ cur.nonce) := by
  obtain ⟨cur, hcur, hcurId, -, -, rfl⟩ := transition_ok hok
  obtain ⟨hid, hnonce, hhash⟩ := hset cur
  have hafter := h.holds_set (i := { setSql cur with state := .FAILED }) hcur hid hnonce
  refine ⟨h.set hcur hid hnonce, cur, hcur, hcurId, ?_⟩
  cases htx : cur.txHash with
  | some hash =>
    refine .inl ⟨rfl, fun m => ?_⟩
    rw [hafter]
    split
    · rename_i hm
      rw [hm, h.holds_iff hcur]
      simp [Intent.holdsNonce, hhash, htx]
    · rfl
  | none =>
    refine .inr ⟨rfl, fun m => ?_⟩
    rw [hafter]
    split
    · rename_i hm
      simp [Intent.holdsNonce, hhash, htx, hm]
    · rename_i hm
      simp [hm]

/-- A signature changes no row. -/
theorem Sound.sign (h : t.Sound) (heffect : SlotEffect pendingCount t₀ t) :
    (t.writeSigned i signed).Sound ∧ SlotEffect pendingCount t₀ (t.writeSigned i signed) := by
  refine ⟨⟨h.ids, h.nonces⟩, ?_⟩
  cases heffect with
  | keep hkeep => exact .keep hkeep
  | take htake => exact .take htake

theorem Sound.recordSigned (pendingCount : Nat) (h : t.Sound) (hok : t.recordSigned id signed = .ok t') :
    t'.Sound ∧ SlotEffect pendingCount t t' := by
  obtain ⟨cur, hget, hok⟩ := bind_eq_ok.mp hok
  obtain ⟨_, hstate, hok⟩ := bind_eq_ok.mp hok
  obtain ⟨_, -, hok⟩ := bind_eq_ok.mp hok
  obtain ⟨t₁, hupdate, hok⟩ := bind_eq_ok.mp hok
  obtain ⟨hcur, -⟩ := get_ok hget
  obtain ⟨-, rfl⟩ := update_ok hupdate
  cases hok
  have hpending : cur.state = .PENDING := Classical.not_not.mp (revertIf_eq_ok.mp hstate)
  have hkeeps : ({ cur with txHash := some signed.txHash } : Intent).holdsNonce =
      cur.holdsNonce := by
    simp [Intent.holdsNonce, hpending]
  exact Sound.sign (h.set hcur rfl rfl) (h.keep hcur rfl rfl hkeeps)

theorem Sound.recordFeeBump (h : t.Sound) (hok : t.recordFeeBump id signed = .ok t') :
    t'.Sound ∧ SlotEffect pendingCount t t' := by
  obtain ⟨cur, hget, hok⟩ := bind_eq_ok.mp hok
  obtain ⟨_, hstate, hok⟩ := bind_eq_ok.mp hok
  obtain ⟨_, -, hok⟩ := bind_eq_ok.mp hok
  obtain ⟨t₁, hupdate, hok⟩ := bind_eq_ok.mp hok
  obtain ⟨hcur, -⟩ := get_ok hget
  obtain ⟨-, rfl⟩ := update_ok hupdate
  cases hok
  have hnot := revertIf_eq_ok.mp hstate
  have hhash : cur.txHash ≠ none := fun hnone => hnot (.inr hnone)
  have hkeeps : ({ cur with txHash := some signed.txHash, state := .PENDING } : Intent).holdsNonce =
      cur.holdsNonce := by
    simp [Intent.holdsNonce, hhash]
  exact Sound.sign (h.set hcur rfl rfl) (h.keep hcur rfl rfl hkeeps)

/-- `create` at the nonce that was handed out takes it, in the row of an intent that was given up or
in a new one. -/
theorem Sound.create {spec : IntentSpec} (h : t.Sound)
    (hok : t.create id (t.allocateNonce pendingCount) spec = .ok (i, t')) :
    t'.Sound ∧ SlotEffect pendingCount t t' := by
  unfold TxTable.create at hok
  split at hok
  · rename_i stale hfind
    obtain ⟨t₁, hupdate, hok⟩ := bind_eq_ok.mp hok
    obtain ⟨-, rfl⟩ := update_ok hupdate
    cases hok
    have hstale : stale ∈ t.rows := List.mem_of_find?_eq_some hfind
    have hnonce : stale.nonce = t.allocateNonce pendingCount := by
      have hfound := List.find?_some hfind
      simp only [Bool.and_eq_true, beq_iff_eq] at hfound
      exact hfound.1
    refine ⟨h.set hstale rfl rfl, .take fun m => ?_⟩
    rw [h.holds_set (i := { stale with spec := spec, state := .PENDING, lastError := none }) hstale
      rfl rfl, hnonce]
    split
    · rename_i hm
      simp [Intent.holdsNonce, hm]
    · rename_i hm
      simp [hm]
  · obtain ⟨_, hguard, hok⟩ := bind_eq_ok.mp hok
    cases hok
    have hnot := revertIf_eq_ok.mp hguard
    have hfresh : ∀ r ∈ t.rows, r.txIntentId ≠ id ∧ r.nonce ≠ t.allocateNonce pendingCount := by
      intro r hr
      exact ⟨fun hid => hnot (.inr ⟨r, hr, .inl hid⟩), fun hn => hnot (.inr ⟨r, hr, .inr hn⟩)⟩
    refine ⟨⟨?_, ?_⟩, .take fun m => ?_⟩
    · simp only [List.map_append, List.map_singleton]
      refine List.nodup_append.mpr ⟨h.ids, List.nodup_singleton _, ?_⟩
      intro x hx y hy
      obtain ⟨r, hr, rfl⟩ := List.mem_map.mp hx
      rw [List.mem_singleton.mp hy]
      exact (hfresh r hr).1
    · simp only [List.map_append, List.map_singleton]
      refine List.nodup_append.mpr ⟨h.nonces, List.nodup_singleton _, ?_⟩
      intro x hx y hy
      obtain ⟨r, hr, rfl⟩ := List.mem_map.mp hx
      rw [List.mem_singleton.mp hy]
      exact (hfresh r hr).2
    · constructor
      · rintro ⟨r, hr, rfl, hholds⟩
        rcases List.mem_append.mp hr with hr | hr
        · exact .inl ⟨r, hr, rfl, hholds⟩
        · rw [List.mem_singleton] at hr
          rw [hr]
          exact .inr rfl
      · rintro (⟨r, hr, rfl, hholds⟩ | rfl)
        · exact ⟨r, List.mem_append_left _ hr, rfl, hholds⟩
        · exact ⟨_, List.mem_append_right _ (List.mem_singleton_self _), rfl,
            by simp [Intent.holdsNonce]⟩

end TxTable

/-! ### Runs -/

section
variable {s s' : SlotState} {a : SlotAction} {t : TxTable} {actions : List SlotAction}

/-- An action that fails no intent leaves no hole. -/
theorem SlotEffect.noHoles (h : SlotEffect s.pendingCount s.table t) (hholes : s.NoHoles) :
    ({ s with table := t } : SlotState).NoHoles := by
  rw [SlotState.noHoles_iff] at hholes ⊢
  intro nonce hnonce m hlow hlt
  replace hnonce : t.Holds nonce := hnonce
  replace hlow : s.pendingCount ≤ m := hlow
  show t.Holds m
  cases h with
  | keep hkeep =>
    rw [hkeep] at hnonce ⊢
    exact hholes nonce hnonce m hlow hlt
  | take htake =>
    rw [htake] at hnonce ⊢
    rcases hnonce with hold | rfl
    · exact .inl (hholes nonce hold m hlow hlt)
    · -- The nonce that was handed out is the pending count, or the next after the highest.
      obtain ⟨top, htop, hle⟩ := TxTable.exists_holds_of_lt_allocateNonce hlow hlt
      rcases Nat.lt_or_eq_of_le hle with hlt' | rfl
      · exact .inl (hholes top htop m hlow hlt')
      · exact .inl htop

/-- The failure of an intent leaves no hole if and only if it was the last to hold a nonce, or its
nonce is below the pending count. -/
theorem SlotState.noHoles_fail {setSql : Intent → Intent} {id : String} (hsound : s.table.Sound)
    (hok : s.table.transition id .FAILED setSql = .ok t)
    (hset : ∀ i, (setSql i).txIntentId = i.txIntentId ∧ (setSql i).nonce = i.nonce ∧
      (setSql i).txHash = i.txHash) (hholes : s.NoHoles) :
    ({ s with table := t } : SlotState).NoHoles ↔ s.LastHeld id := by
  obtain ⟨-, cur, hcur, hid, hcases⟩ := hsound.fail hok hset
  rw [noHoles_iff] at hholes ⊢
  show (∀ nonce, t.Holds nonce → ∀ m, s.pendingCount ≤ m → m < nonce → t.Holds m) ↔ s.LastHeld id
  rcases hcases with ⟨hhash, hkeep⟩ | ⟨hhash, hfree⟩
  · -- The intent has a hash, and holds its nonce as before.
    simp only [hkeep]
    refine iff_of_true hholes ?_
    intro i hi hid' hnone
    rw [hsound.eq_of_id hi hcur (hid'.trans hid.symm)] at hnone
    rw [hnone] at hhash
    cases hhash
  · constructor
    · intro hafter i hi hid' _ hlow nonce hnonce
      obtain rfl := hsound.eq_of_id hi hcur (hid'.trans hid.symm)
      by_contra habove
      have hstill : t.Holds nonce := (hfree nonce).mpr ⟨hnonce, by omega⟩
      have hheld := hafter nonce hstill i.nonce hlow (by omega)
      exact ((hfree i.nonce).mp hheld).2 rfl
    · intro hlast nonce hnonce m hlow hlt
      have hold := ((hfree nonce).mp hnonce).1
      refine (hfree m).mpr ⟨hholes nonce hold m hlow hlt, ?_⟩
      rintro rfl
      have hle := hlast cur hcur hid hhash hlow nonce hold
      omega

/-- Another pending count leaves no hole if and only if it uncovers held nonces only. -/
theorem SlotState.noHoles_chain {pendingCount : Nat} (hholes : s.NoHoles) :
    ({ s with pendingCount := pendingCount } : SlotState).NoHoles ↔
      SlotAction.KeepsSlots s (.chain pendingCount) := by
  rw [noHoles_iff] at hholes ⊢
  constructor
  · intro hafter m nonce hlow _ hlt hnonce
    exact hafter nonce hnonce m hlow hlt
  · intro hkeeps nonce hnonce m hlow hlt
    by_cases hm : s.pendingCount ≤ m
    · exact hholes nonce hnonce m hm hlt
    · exact hkeeps m nonce hlow (by omega) hlt hnonce

/-- An action keeps the table in order, and keeps the slots without holes if and only if it meets
the condition. -/
theorem SlotStep.slots (hsound : s.table.Sound) (h : SlotStep s a s') :
    s'.table.Sound ∧ (s.NoHoles → (s'.NoHoles ↔ a.KeepsSlots s)) := by
  unfold SlotStep at h
  cases a with
  | chain pendingCount =>
    cases h
    exact ⟨hsound, SlotState.noHoles_chain⟩
  | allocate id spec =>
    obtain ⟨⟨i, t⟩, hok, h⟩ := bind_eq_ok.mp h
    cases h
    obtain ⟨hafter, heffect⟩ := hsound.create hok
    exact ⟨hafter, fun hholes => iff_of_true (heffect.noHoles hholes) trivial⟩
  | recordSigned id signed =>
    obtain ⟨t, hok, h⟩ := bind_eq_ok.mp h
    cases h
    obtain ⟨hafter, heffect⟩ := hsound.recordSigned _ hok
    exact ⟨hafter, fun hholes => iff_of_true (heffect.noHoles hholes) trivial⟩
  | recordFeeBump id signed =>
    obtain ⟨t, hok, h⟩ := bind_eq_ok.mp h
    cases h
    obtain ⟨hafter, heffect⟩ := hsound.recordFeeBump hok
    exact ⟨hafter, fun hholes => iff_of_true (heffect.noHoles hholes) trivial⟩
  | markSent id =>
    obtain ⟨t, hok, h⟩ := bind_eq_ok.mp h
    cases h
    obtain ⟨hafter, heffect⟩ := hsound.transition hok nofun fun _ => ⟨rfl, rfl⟩
    exact ⟨hafter, fun hholes => iff_of_true (heffect.noHoles hholes) trivial⟩
  | markMined id block receiptStatus =>
    obtain ⟨t, hok, h⟩ := bind_eq_ok.mp h
    cases h
    unfold TxTable.markMined at hok
    split at hok
    · rename_i hgood
      obtain ⟨hafter, heffect⟩ := hsound.transition hok nofun fun _ => ⟨rfl, rfl⟩
      exact ⟨hafter, fun hholes => iff_of_true (heffect.noHoles hholes) (.inl hgood)⟩
    · rename_i hbad
      refine ⟨(hsound.fail hok fun _ => ⟨rfl, rfl, rfl⟩).1, fun hholes => ?_⟩
      rw [SlotState.noHoles_fail hsound hok (fun _ => ⟨rfl, rfl, rfl⟩) hholes]
      exact (or_iff_right hbad).symm
  | markFinal id finalityBlock =>
    obtain ⟨t, hok, h⟩ := bind_eq_ok.mp h
    cases h
    obtain ⟨hafter, heffect⟩ := hsound.transition hok nofun fun _ => ⟨rfl, rfl⟩
    exact ⟨hafter, fun hholes => iff_of_true (heffect.noHoles hholes) trivial⟩
  | markOrphaned id reason =>
    obtain ⟨t, hok, h⟩ := bind_eq_ok.mp h
    cases h
    obtain ⟨hafter, heffect⟩ := hsound.transition hok nofun fun _ => ⟨rfl, rfl⟩
    exact ⟨hafter, fun hholes => iff_of_true (heffect.noHoles hholes) trivial⟩
  | markReplaced id byId =>
    obtain ⟨t, hok, h⟩ := bind_eq_ok.mp h
    cases h
    obtain ⟨hafter, heffect⟩ := hsound.transition hok nofun fun _ => ⟨rfl, rfl⟩
    exact ⟨hafter, fun hholes => iff_of_true (heffect.noHoles hholes) trivial⟩
  | abandon id reason =>
    obtain ⟨t, hok, h⟩ := bind_eq_ok.mp h
    cases h
    obtain ⟨_, -, hok⟩ := bind_eq_ok.mp hok
    obtain ⟨cur, -, hok⟩ := bind_eq_ok.mp hok
    obtain ⟨_, -, hok⟩ := bind_eq_ok.mp hok
    exact ⟨(hsound.fail hok fun _ => ⟨rfl, rfl, rfl⟩).1,
      SlotState.noHoles_fail hsound hok fun _ => ⟨rfl, rfl, rfl⟩⟩

/-- In every run no two intents have one nonce, and the slots are without holes if and only if each
action meets the condition. -/
theorem nonces_without_holes (pendingCount : Nat) (actions : List SlotAction) :
    (∀ pre post s, actions = pre ++ post → Steps SlotStep (.initial pendingCount) pre s →
      (s.table.rows.map Intent.nonce).Nodup ∧ s.NoHoles) ↔
    ∀ s a s', StepOf SlotStep (.initial pendingCount) actions s a s' → a.KeepsSlots s := by
  have hinitial : (SlotState.initial pendingCount).NoHoles := by
    rintro nonce ⟨i, hi, -⟩
    cases hi
  refine Iff.trans ?_ (Steps.stays_iff (I := fun s : SlotState => s.table.Sound)
    (P := SlotState.NoHoles) (Q := fun s (a : SlotAction) => a.KeepsSlots s)
    TxTable.initial_sound (fun _ _ _ hs h => (h.slots hs).1) hinitial
    (fun _ _ _ hs hp h => (h.slots hs).2 hp))
  constructor
  · intro hall pre post s hcut hrun
    exact (hall pre post s hcut hrun).2
  · intro hall pre post s hcut hrun
    refine ⟨?_, hall pre post s hcut hrun⟩
    have hsound : s.table.Sound := hrun.invariant (P := fun s : SlotState => s.table.Sound)
      (fun _ _ _ hs h => (h.slots hs).1) TxTable.initial_sound
    exact hsound.nonces

end

namespace Sample

/-- What the intents are for. -/
def intentSpec : IntentSpec where
  jobId := none
  purpose := "INGEST"
  toAddress := []
  calldataHash := []
  replaces := none

/-- Two intents are prepared, and the first is given up. -/
def freedSlot : List SlotAction :=
  [.allocate "A" intentSpec, .allocate "B" intentSpec, .abandon "A" "timeout"]

end Sample

/-- The nonce 0 is free below the nonce 1, and the next to be handed out is 2. -/
theorem freed_slot_wedges : ¬∀ pre post s, Sample.freedSlot = pre ++ post →
    Steps SlotStep (.initial 0) pre s → (s.table.rows.map Intent.nonce).Nodup ∧ s.NoHoles := by
  intro hall
  obtain ⟨s, hrun, hview⟩ : ∃ s, (SlotState.initial 0).run Sample.freedSlot = some s ∧
      (s.pendingCount, s.table.rows.map (fun i => (i.nonce, i.holdsNonce)),
        s.table.allocateNonce s.pendingCount) = (0, [(0, false), (1, true)], 2) :=
    Option.map_eq_some_iff.mp (by decide +kernel)
  simp only [Prod.mk.injEq] at hview
  obtain ⟨hpending, hrows, hnext⟩ := hview
  obtain ⟨-, hholes⟩ := hall _ [] s (by simp) (SlotState.run_steps hrun)
  have hmem : ∀ nonce, s.table.Holds nonce ↔ nonce = 1 := by
    intro nonce
    have hpairs : s.table.Holds nonce ↔
        (nonce, true) ∈ s.table.rows.map fun i => (i.nonce, i.holdsNonce) := by
      simp [TxTable.Holds]
    rw [hpairs, hrows]
    simp
  rcases hholes 1 ((hmem 1).mpr rfl) 0 (by omega) (by omega) with hheld | hhanded
  · exact absurd ((hmem 0).mp hheld) (by decide)
  · rw [hnext] at hhanded
    exact absurd hhanded (by decide)

end Rackline
