import Rackline.ProofLifecycle

/-!
# `Rackline.Proofs.ProofStatus`: when the status of a proof request regresses

Along the pipeline, or to a failure, the status of a request only moves forward, as long as it
still is what a failing handler has read before it dropped its lock. `Moves` is the order of the
statuses. An `OK` follows it, because the lock is held from the read to the commit. A failure is
recorded over whatever has been committed in the meantime: `recorded_moves_iff` says exactly which
statuses it may overwrite.
-/

set_option autoImplicit false

namespace Rackline.Proof

open RowLock Transition

/-! ### The order of the statuses -/

/-- The place of a status in the pipeline. -/
def Status.rank : Status → Option Nat
  | .OBSERVED => some 0
  | .WAITING_ATTESTATION => some 1
  | .PROOF_READY => some 2
  | .SUBMITTED => some 3
  | .NATIVE_ACCEPTED => some 4
  | .CONSUMED => some 5
  | _ => none

/-- The statuses a request can fail with. -/
def Status.failures : List Status := [.INVALID, .UNSUPPORTED, .EXPIRED]

/-- What may become of a status: it stays, it goes forward in the pipeline, or it fails while it
is not terminal. -/
inductive Moves : Status → Status → Prop
  | stays (a : Status) : Moves a a
  | forward {a b : Status} {i j : Nat} : a.rank = some i → b.rank = some j → i < j → Moves a b
  | fails {a b : Status} : a.terminal = false → b ∈ Status.failures → Moves a b

section
variable {a b c : Status}

theorem rank_failure (h : a ∈ Status.failures) : a.rank = none := by
  simp only [Status.failures, List.mem_cons, List.not_mem_nil, or_false] at h
  rcases h with rfl | rfl | rfl <;> rfl

theorem terminal_failure (h : a ∈ Status.failures) : a.terminal = true := by
  simp only [Status.failures, List.mem_cons, List.not_mem_nil, or_false] at h
  rcases h with rfl | rfl | rfl <;> rfl

theorem rank_le {i : Nat} (h : a.rank = some i) : i ≤ 5 := by
  cases a <;> simp_all [Status.rank] <;> omega

/-- Only the last status of the pipeline is terminal. -/
theorem terminal_of_rank {i : Nat} (h : a.rank = some i) (hi : i < 5) : a.terminal = false := by
  cases a <;> simp_all [Status.rank, Status.terminal]

theorem eq_of_rank {i : Nat} (ha : a.rank = some i) (hb : b.rank = some i) : a = b := by
  cases a <;> cases b <;> simp_all [Status.rank] <;> omega

/-- A terminal status does not move. -/
theorem Moves.eq_of_terminal (h : Moves a b) (hterminal : a.terminal = true) : a = b := by
  cases h with
  | stays => rfl
  | forward hi hj hlt =>
    have := rank_le hj
    rw [terminal_of_rank hi (by omega)] at hterminal
    cases hterminal
  | fails hopen _ =>
    rw [hopen] at hterminal
    cases hterminal

theorem Moves.trans (h₁ : Moves a b) (h₂ : Moves b c) : Moves a c := by
  cases h₁ with
  | stays => exact h₂
  | forward hi hj hlt =>
    cases h₂ with
    | stays => exact .forward hi hj hlt
    | forward hj' hk hlt' =>
      rw [hj] at hj'
      obtain rfl := Option.some.inj hj'
      exact .forward hi hk (Nat.lt_trans hlt hlt')
    | fails _ hfail =>
      have := rank_le hj
      exact .fails (terminal_of_rank hi (by omega)) hfail
  | fails hopen hfail =>
    rw [← h₂.eq_of_terminal (terminal_failure hfail)]
    exact .fails hopen hfail

/-- Between two moves there and back, nothing has moved. -/
theorem Moves.antisymm (h₁ : Moves a b) (h₂ : Moves b a) : a = b := by
  cases h₁ with
  | stays => rfl
  | forward hi hj hlt =>
    cases h₂ with
    | stays => rfl
    | forward hj' hi' hlt' =>
      rw [hj] at hj'
      rw [hi] at hi'
      obtain rfl := Option.some.inj hj'
      obtain rfl := Option.some.inj hi'
      omega
    | fails _ hfail =>
      rw [rank_failure hfail] at hi
      cases hi
  | fails _ hfail => exact (h₂.eq_of_terminal (terminal_failure hfail)).symm

/-- Nothing lies between `OBSERVED` and `WAITING_ATTESTATION`. -/
theorem Moves.observed_waiting (h₁ : Moves .OBSERVED b) (h₂ : Moves b .WAITING_ATTESTATION) :
    b = .OBSERVED ∨ b = .WAITING_ATTESTATION := by
  cases h₂ with
  | stays => exact .inr rfl
  | @forward _ i j hi hj hlt =>
    obtain rfl : 1 = j := Option.some.inj hj
    obtain rfl : i = 0 := by omega
    exact .inl (eq_of_rank hi rfl)
  | fails _ hfail => simp [Status.failures] at hfail

/-- The status of an `OK` is ahead of every status it starts from. -/
theorem moves_okStatus {kind : Kind} (h : a ∈ fromStatus kind) : Moves a (okStatus kind) := by
  cases kind <;> simp only [fromStatus, List.mem_cons, List.not_mem_nil, or_false] at h
  case PROOF_WAIT_ATTESTATION =>
    rcases h with rfl | rfl
    · exact .forward (i := 0) (j := 1) rfl rfl (by omega)
    · exact .stays _
  all_goals
    subst h
    exact .forward rfl rfl (by decide)

end

/-! ### A recorded failure -/

/-- The failure may be recorded over the committed status: it still is the status that the handler
has read, or the failure says the same, or a terminal failure meets a request that is still open. -/
def Call.MayRecord (call : Call) (before committed : Status) : Prop :=
  committed = before ∨ committed = recordedStatus call.kind call.outcome before ∨
    (classify call.outcome = some .TERMINAL ∧ committed.terminal = false)

theorem recordedStatus_terminal {kind : Kind} {outcome : Outcome} {before : Status}
    (h : classify outcome = some .TERMINAL) :
    recordedStatus kind outcome before ∈ Status.failures := by
  cases outcome <;> simp_all [classify, recordedStatus, Status.failures]

/-- A failure that is not terminal leaves the status as it was read, or starts the wait. -/
theorem recordedStatus_transient {kind : Kind} {outcome : Outcome} {before : Status}
    (hok : outcome ≠ .OK) (h : classify outcome ≠ some .TERMINAL) :
    recordedStatus kind outcome before = before ∨
      before = .OBSERVED ∧ recordedStatus kind outcome before = .WAITING_ATTESTATION := by
  have hrecorded : recordedStatus kind outcome before =
      if kind = .PROOF_WAIT_ATTESTATION ∧ before = .OBSERVED then .WAITING_ATTESTATION
      else before := by
    cases outcome <;> simp_all [classify, recordedStatus]
  rw [hrecorded]
  split
  · rename_i hc
    exact .inr ⟨hc.2, rfl⟩
  · exact .inl rfl

/-- Exactly then does the recorded status move the committed one forward. -/
theorem recorded_moves_iff {call : Call} {before committed : Status} (hok : call.outcome ≠ .OK)
    (hopen : before.terminal = false) (hmoved : Moves before committed) :
    Moves committed (recordedStatus call.kind call.outcome before) ↔
      call.MayRecord before committed := by
  unfold Call.MayRecord
  by_cases hterminal : classify call.outcome = some .TERMINAL
  · have hfail : recordedStatus call.kind call.outcome before ∈ Status.failures :=
      recordedStatus_terminal hterminal
    constructor
    · intro hmoves
      by_cases hclosed : committed.terminal = true
      · exact .inr (.inl (hmoves.eq_of_terminal hclosed))
      · exact .inr (.inr ⟨hterminal, by simpa using hclosed⟩)
    · rintro (rfl | heq | ⟨-, hopen'⟩)
      · exact .fails hopen hfail
      · exact heq ▸ .stays _
      · exact .fails hopen' hfail
  · have htransient : recordedStatus call.kind call.outcome before = before ∨
        before = .OBSERVED ∧ recordedStatus call.kind call.outcome before = .WAITING_ATTESTATION :=
      recordedStatus_transient hok hterminal
    constructor
    · intro hmoves
      rcases htransient with hsame | ⟨rfl, hwait⟩
      · rw [hsame] at hmoves
        exact .inl (hmoved.antisymm hmoves).symm
      · rw [hwait] at hmoves ⊢
        rcases hmoved.observed_waiting hmoves with heq | heq
        · exact .inl heq
        · exact .inr (.inl heq)
    · rintro (rfl | heq | ⟨hterm, -⟩)
      · rcases htransient with hsame | ⟨rfl, hwait⟩
        · rw [hsame]
          exact .stays _
        · rw [hwait]
          exact .forward (i := 0) (j := 1) rfl rfl (by omega)
      · exact heq ▸ .stays _
      · exact absurd hterm hterminal

/-! ### What a handler holds -/

/-- The handler holds the row of `id`, and no other; `P` relates the committed row to its
version. -/
structure Requests.Holds (s : Requests) (h : HandlerId) (id : RequestId)
    (P : ProofRequest → ProofRequest → Prop) : Prop where
  row : ∃ row row', s.rows.committed id = some row ∧ s.rows.held id = some ⟨h, some row'⟩ ∧
    P row row'
  only : ∀ k l, s.rows.held k = some l → l.holder = h → k = id

/-- The handler holds no row. -/
def Requests.HoldsNone (s : Requests) (h : HandlerId) : Prop :=
  ∀ k l, s.rows.held k = some l → l.holder ≠ h

/-- What the handler knows of the table at each point of `apply`. -/
def Phase.Backed (s : Requests) (h : HandlerId) : Phase → Prop
  | .idle => s.HoldsNone h
  | .locked call before =>
    s.Holds h call.proofRequestId fun row row' => row' = row ∧ row.status = before
  | .advanced call before =>
    s.Holds h call.proofRequestId fun row row' =>
      row' = row.advanced call.kind ∧ row.status = before ∧ before ∈ fromStatus call.kind
  | .released call before =>
    call.outcome ≠ .OK ∧ before.terminal = false ∧ s.HoldsNone h ∧
      ∃ row, s.rows.committed call.proofRequestId = some row ∧ Moves before row.status
  | .recorded call before =>
    call.outcome ≠ .OK ∧ before.terminal = false ∧
      s.Holds h call.proofRequestId fun row row' =>
        row' = row.failed call.kind call.outcome call.error before ∧ Moves before row.status

/-- Every handler knows what it should. -/
def Requests.Backed (s : Requests) : Prop := ∀ h, (s.phase h).Backed s h

/-- No committed status goes back, and no request is deleted. -/
def Requests.Forward (s s' : Requests) : Prop :=
  ∀ id row, s.rows.committed id = some row →
    ∃ row', s'.rows.committed id = some row' ∧ Moves row.status row'.status

section
variable {s s' : Requests} {h y : HandlerId} {id : RequestId} {phase phase' : Phase}

theorem forward_of_committed (heq : s'.rows.committed = s.rows.committed) : s.Forward s' :=
  fun id row hrow => ⟨row, by rw [heq, hrow], .stays _⟩

theorem Requests.Holds.frame {P : ProofRequest → ProofRequest → Prop} (hs : s.Holds y id P)
    (hframe : s.rows.Unmoved s'.rows y) : s'.Holds y id P where
  row := by
    obtain ⟨row, row', hrow, hheld, hP⟩ := hs.row
    refine ⟨row, row', ?_, (hframe.held id _ rfl).mpr hheld, hP⟩
    rw [hframe.committed id _ hheld rfl, hrow]
  only k l hl hy := hs.only k l ((hframe.held k l hy).mp hl) hy

theorem Requests.HoldsNone.frame (hs : s.HoldsNone y) (hframe : s.rows.Unmoved s'.rows y) :
    s'.HoldsNone y :=
  fun k l hl hy => hs k l ((hframe.held k l hy).mp hl) hy

/-- What another handler does leaves this one backed, as long as no status goes back. -/
theorem Phase.Backed.frame (hs : phase.Backed s y) (hframe : s.rows.Unmoved s'.rows y)
    (hforward : s.Forward s') : phase.Backed s' y := by
  cases phase with
  | idle => exact Requests.HoldsNone.frame hs hframe
  | locked => exact Requests.Holds.frame hs hframe
  | advanced => exact Requests.Holds.frame hs hframe
  | released =>
    obtain ⟨hok, hopen, hnone, row, hrow, hmoves⟩ := hs
    obtain ⟨row', hrow', hmoves'⟩ := hforward _ row hrow
    exact ⟨hok, hopen, hnone.frame hframe, row', hrow', hmoves.trans hmoves'⟩
  | recorded => exact ⟨hs.1, hs.2.1, hs.2.2.frame hframe⟩

/-- The handler moves on, and the others stay backed. -/
theorem Requests.Backed.update (hs : s.Backed) (hphase : s'.phase = Function.update s.phase h phase)
    (hself : phase.Backed s' h) (hframe : ∀ y, y ≠ h → s.rows.Unmoved s'.rows y)
    (hforward : s.Forward s') : s'.Backed := by
  intro y
  rw [hphase]
  by_cases hy : y = h
  · subst hy
    rw [Function.update_self]
    exact hself
  · rw [Function.update_of_ne hy]
    exact (hs y).frame (hframe y hy) hforward

/-- A row that the handler alone has locked, after it has written it. -/
theorem holds_write {row row' : ProofRequest} {P : ProofRequest → ProofRequest → Prop}
    (hrow : s.rows.committed id = some row) (hP : P row row')
    (honly : ∀ k l, s.rows.held k = some l → l.holder = h → k = id) :
    (s.write h id row' phase').Holds h id P where
  row := ⟨row, row', hrow, Rows.held_put_self, hP⟩
  only k l hl hy := by
    have hl : (s.rows.put h id (some row')).held k = some l := hl
    by_contra hk
    rw [Rows.held_put_of_ne hk] at hl
    exact hk (honly k l hl hy)

theorem Requests.Backed.write {row' : ProofRequest} (hs : s.Backed) (hfree : s.rows.Free h id)
    (hself : phase'.Backed (s.write h id row' phase') h) : (s.write h id row' phase').Backed :=
  hs.update rfl hself (fun _ hy => Rows.unmoved_put hfree hy) (forward_of_committed rfl)

theorem holdsNone_rollback : (s.rollback h phase').HoldsNone h :=
  fun _ _ hl => (Rows.held_rollback.mp hl).2

theorem Requests.Backed.rollback (hs : s.Backed) (hself : phase'.Backed (s.rollback h phase') h) :
    (s.rollback h phase').Backed :=
  hs.update rfl hself (fun _ hy => Rows.unmoved_rollback hy) (forward_of_committed rfl)

/-- A handler that holds a row reads its own version of it. -/
theorem version_of_holds {P : ProofRequest → ProofRequest → Prop} (hs : s.Holds h id P)
    {row' : ProofRequest} (hversion : s.rows.version h id = some row') :
    ∃ row, s.rows.committed id = some row ∧ P row row' := by
  obtain ⟨row, r, hrow, hheld, hP⟩ := hs.row
  rw [Rows.version_of_held hheld rfl] at hversion
  obtain rfl : r = row' := Option.some.inj hversion
  exact ⟨row, hrow, hP⟩

/-- `currentStatus` locks the row, and reads the committed status. -/
theorem currentStatus_backed {call : Call} (hs : s.Backed) (hstep : s.currentStatus h call = some s') :
    s'.Backed ∧ s'.rows.committed = s.rows.committed := by
  unfold Requests.currentStatus at hstep
  split at hstep
  · rename_i hidle
    have hnone : s.HoldsNone h := by
      have := hs h
      rwa [hidle] at this
    split at hstep
    · rename_i hfree
      split at hstep
      · rename_i row hrow
        obtain rfl := Option.some.inj hstep
        rw [Rows.version_of_not_held (hnone _)] at hrow
        refine ⟨hs.write hfree ?_, rfl⟩
        exact holds_write hrow ⟨rfl, rfl⟩ fun k l hl hy => absurd hy (hnone k l hl)
      · obtain rfl := Option.some.inj hstep
        exact ⟨hs, rfl⟩
    · cases hstep
  · cases hstep

/-- An `OK` starts from a status of its kind, which nobody can change before the commit. -/
theorem advance_backed {ev : Evidence} (hs : s.Backed) (hstep : s.advance h ev = some s') :
    s'.Backed ∧ s'.rows.committed = s.rows.committed := by
  unfold Requests.advance at hstep
  split at hstep
  · rename_i call before hlocked
    have hholds : s.Holds h call.proofRequestId fun row row' => row' = row ∧ row.status = before := by
      have := hs h
      rwa [hlocked] at this
    split at hstep
    · split at hstep
      · rename_i row hversion
        obtain ⟨row₀, hrow₀, rfl, hbefore⟩ := version_of_holds hholds hversion
        split at hstep
        · rename_i hc
          obtain rfl := Option.some.inj hstep
          have hfree : s.rows.Free h call.proofRequestId := by
            obtain ⟨_, _, -, hheld, -⟩ := hholds.row
            intro l hl
            rw [hheld] at hl
            rw [← Option.some.inj hl]
          refine ⟨hs.write hfree ?_, rfl⟩
          exact holds_write hrow₀ ⟨rfl, hbefore, hc.2.1⟩ hholds.only
        · obtain rfl := Option.some.inj hstep
          exact ⟨hs.rollback holdsNone_rollback, rfl⟩
      · obtain rfl := Option.some.inj hstep
        exact ⟨hs.rollback holdsNone_rollback, rfl⟩
    · cases hstep
  · cases hstep

/-- A failing handler drops its lock, and keeps the status it has read. -/
theorem release_backed (hs : s.Backed) (hstep : s.release h = some s') :
    s'.Backed ∧ s'.rows.committed = s.rows.committed := by
  unfold Requests.release at hstep
  split at hstep
  · rename_i call before hlocked
    have hholds : s.Holds h call.proofRequestId fun row row' => row' = row ∧ row.status = before := by
      have := hs h
      rwa [hlocked] at this
    split at hstep
    · rename_i hok
      split at hstep
      · obtain rfl := Option.some.inj hstep
        exact ⟨hs.rollback holdsNone_rollback, rfl⟩
      · rename_i hopen
        obtain rfl := Option.some.inj hstep
        obtain ⟨row, _, hrow, -, -, hbefore⟩ := hholds.row
        refine ⟨hs.rollback ⟨hok, by simpa using hopen, holdsNone_rollback, row, hrow, ?_⟩, rfl⟩
        exact hbefore ▸ .stays _
    · cases hstep
  · cases hstep

/-- A failure is written over whatever is committed. -/
theorem record_backed {ev : Evidence} (hs : s.Backed) (hstep : s.record h ev = some s') :
    s'.Backed ∧ s'.rows.committed = s.rows.committed := by
  unfold Requests.record at hstep
  split at hstep
  · rename_i call before hreleased
    have hback : (Phase.released call before).Backed s h := by
      have := hs h
      rwa [hreleased] at this
    obtain ⟨hok, hopen, hnone, row₀, hrow₀, hmoves⟩ := hback
    split at hstep
    · rename_i hfree
      split at hstep
      · rename_i row hversion
        rw [Rows.version_of_not_held (hnone _), hrow₀] at hversion
        obtain rfl := Option.some.inj hversion
        split at hstep
        · obtain rfl := Option.some.inj hstep
          refine ⟨hs.write hfree ⟨hok, hopen, ?_⟩, rfl⟩
          exact holds_write hrow₀ ⟨rfl, hmoves⟩ fun k l hl hy => absurd hy (hnone k l hl)
        · obtain rfl := Option.some.inj hstep
          exact ⟨hs.rollback holdsNone_rollback, rfl⟩
      · obtain rfl := Option.some.inj hstep
        exact ⟨hs.rollback holdsNone_rollback, rfl⟩
    · cases hstep
  · cases hstep

/-- A commit moves the statuses forward if and only if it moves that of the held row. -/
theorem forward_commit_iff {row row' : ProofRequest} (hrow : s.rows.committed id = some row)
    (hheld : s.rows.held id = some ⟨h, some row'⟩)
    (honly : ∀ k l, s.rows.held k = some l → l.holder = h → k = id)
    (hrows : s'.rows = s.rows.commit h) : s.Forward s' ↔ Moves row.status row'.status := by
  have hrow' : s'.rows.committed id = some row' := by
    rw [hrows, Rows.committed_commit, Rows.version_of_held hheld rfl]
  constructor
  · intro hforward
    obtain ⟨r, hr, hmoves⟩ := hforward id row hrow
    rw [hrow'] at hr
    obtain rfl := Option.some.inj hr
    exact hmoves
  · intro hmoves k r hr
    by_cases hk : k = id
    · subst hk
      rw [hrow] at hr
      obtain rfl := Option.some.inj hr
      exact ⟨row', hrow', hmoves⟩
    · have hother : s'.rows.committed k = s.rows.committed k := by
        rw [hrows, Rows.committed_commit, Rows.version_of_not_held]
        exact fun l hl hy => hk (honly k l hl hy)
      exact ⟨r, by rw [hother, hr], .stays _⟩

/-! ### The steps of a run -/

/-- A commit of a recorded failure finds a status that the failure may be recorded over. -/
def Action.Keeps (s : Requests) : Action → Prop
  | .commit h =>
    match s.phase h with
    | .recorded call before => ∀ row, s.rows.committed call.proofRequestId = some row →
        call.MayRecord before row.status
    | _ => True
  | _ => True

/-- Only a commit moves a status; that of an `OK` moves it forward, and that of a failure does so
exactly if it may be recorded. -/
theorem commit_forward_iff (hs : s.Backed) (hstep : s.commit h = some s') :
    s'.phase = Function.update s.phase h .idle ∧ s'.rows = s.rows.commit h ∧
      (s.Forward s' ↔ Action.Keeps s (.commit h)) := by
  have hback := hs h
  unfold Requests.commit at hstep
  split at hstep
  · rename_i call before hadvanced
    obtain rfl := Option.some.inj hstep
    rw [hadvanced] at hback
    refine ⟨rfl, rfl, iff_of_true ?_ (by simp only [Action.Keeps, hadvanced])⟩
    have hholds : s.Holds h call.proofRequestId fun row row' =>
        row' = row.advanced call.kind ∧ row.status = before ∧ before ∈ fromStatus call.kind := hback
    obtain ⟨row, _, hrow, hheld, rfl, hbefore, hfrom⟩ := hholds.row
    refine (forward_commit_iff hrow hheld hholds.only rfl).mpr ?_
    show Moves row.status (okStatus call.kind)
    rw [hbefore]
    exact moves_okStatus hfrom
  · rename_i call before hrecorded
    obtain rfl := Option.some.inj hstep
    rw [hrecorded] at hback
    obtain ⟨hok, hopen, hholds⟩ := hback
    obtain ⟨row, _, hrow, hheld, rfl, hmoves⟩ := hholds.row
    refine ⟨rfl, rfl, (forward_commit_iff hrow hheld hholds.only rfl).trans ?_⟩
    show Moves row.status (recordedStatus call.kind call.outcome before) ↔ _
    rw [recorded_moves_iff hok hopen hmoves]
    simp only [Action.Keeps, hrecorded]
    constructor
    · intro hmay r hr
      rw [hrow] at hr
      obtain rfl := Option.some.inj hr
      exact hmay
    · exact fun hall => hall row hrow
  · cases hstep

theorem Step.forward_iff {a : Action} (hs : s.Backed) (hstep : Step s a s') :
    (s.Forward s' ↔ a.Keeps s) ∧ (s.Forward s' → s'.Backed) := by
  have hquiet : s'.Backed ∧ s'.rows.committed = s.rows.committed →
      (s.Forward s' ↔ True) ∧ (s.Forward s' → s'.Backed) := fun ⟨hback, hrows⟩ =>
    ⟨iff_of_true (forward_of_committed hrows) trivial, fun _ => hback⟩
  cases a with
  | currentStatus h call => exact hquiet (currentStatus_backed hs hstep)
  | advance h ev => exact hquiet (advance_backed hs hstep)
  | release h => exact hquiet (release_backed hs hstep)
  | record h ev => exact hquiet (record_backed hs hstep)
  | commit h =>
    obtain ⟨hphase, hrows, hiff⟩ := commit_forward_iff hs hstep
    refine ⟨hiff, fun hforward => hs.update (h := h) hphase ?_ (fun y hy => ?_) hforward⟩
    · intro k l hl
      rw [hrows] at hl
      exact (Rows.held_commit.mp hl).2
    · rw [hrows]
      exact Rows.unmoved_commit hy
  | rollback h =>
    obtain rfl := Option.some.inj hstep
    exact hquiet ⟨hs.rollback holdsNone_rollback, rfl⟩

end

/-- In a run of any number of handlers, from any table, every committed status moves forward, or
fails from a status that is not terminal, if and only if every failure that is committed may be
recorded over the status it finds. -/
theorem status_forward_iff (table : RequestId → Option ProofRequest) (as : List Action) :
    (∀ s a s', StepOf Step (.start table) as s a s' → s.Forward s') ↔
      ∀ s a s', StepOf Step (.start table) as s a s' → a.Keeps s := by
  refine Steps.steps_iff (K := Requests.Backed) (L := Requests.Forward) ?_
    (fun _ _ _ h hs => (hs.forward_iff h).1) fun _ _ _ h hs => (hs.forward_iff h).2
  exact fun _ _ _ hl => by cases hl

/-! ### A sample run -/

namespace Sample

/-- A request that waits for its attestation. -/
def waiting : RequestId → Option ProofRequest :=
  fun id => if id = 1 then some ⟨.WAITING_ATTESTATION, 0, none⟩ else none

def notReady : Call := ⟨1, .PROOF_WAIT_ATTESTATION, .NOT_READY, none⟩

def fetched : Call := ⟨1, .PROOF_FETCH_ARTIFACT, .OK, none⟩

/-- The handler 1 reads the status and drops its lock; the handler 2 stores the artifact and
commits; then the handler 1 records that the attestation is not ready. -/
def overtaken : List Action :=
  [.currentStatus 1 notReady, .release 1, .currentStatus 2 fetched, .advance 2 ⟨1, 0, 0⟩,
    .commit 2, .record 1 ⟨1, 0, 0⟩]

end Sample

/-- The status falls back from `PROOF_READY` to `WAITING_ATTESTATION`. -/
theorem status_regresses :
    ∃ s s', Steps Step (.start Sample.waiting) Sample.overtaken s ∧ Step s (.commit 1) s' ∧
      (s.rows.committed 1).map ProofRequest.status = some .PROOF_READY ∧
      (s'.rows.committed 1).map ProofRequest.status = some .WAITING_ATTESTATION ∧
      ¬ s.Forward s' := by
  obtain ⟨s, hrun, hview⟩ : ∃ s, (Requests.start Sample.waiting).run Sample.overtaken = some s ∧
      ((s.rows.committed 1).map ProofRequest.status,
        (s.step (.commit 1)).map fun s' => (s'.rows.committed 1).map ProofRequest.status) =
        (some .PROOF_READY, some (some .WAITING_ATTESTATION)) :=
    Option.map_eq_some_iff.mp (by decide +kernel)
  obtain ⟨hbefore, hafter⟩ := Prod.mk.inj hview
  obtain ⟨s', hstep, hstatus⟩ := Option.map_eq_some_iff.mp hafter
  refine ⟨s, s', Requests.run_steps hrun, hstep, hbefore, hstatus, fun hforward => ?_⟩
  obtain ⟨row, hrow, hready⟩ := Option.map_eq_some_iff.mp hbefore
  obtain ⟨row', hrow', hmoves⟩ := hforward 1 row hrow
  rw [hrow'] at hstatus
  have hwaiting : row'.status = .WAITING_ATTESTATION := Option.some.inj hstatus
  rw [hready, hwaiting] at hmoves
  have hback : Moves .WAITING_ATTESTATION .PROOF_READY :=
    .forward (i := 1) (j := 2) rfl rfl (by omega)
  cases hback.antisymm hmoves

end Rackline.Proof
