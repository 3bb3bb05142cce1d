import Rackline.Proofs.JobFencing

/-!
# `Rackline.Proofs.JobProgress`: when a job gets stuck

A job that has not succeeded waits for something: for its worker, for an operator to resume it, or
for the time at which it can be leased again. A job that is leased on its last allowed attempt
waits for its worker alone, so it is stuck as soon as that lease runs out: it cannot be leased, and
it is not `DEAD`.

`live_iff` says this of one row, `Steady` is the invariant that it needs, and `progress_iff` reads
it along a run.
-/

set_option autoImplicit false

namespace Rackline.Jobs

open RowLock Transition

/-! ### One row -/

/-- The job is done, or an operator can resume it, or its lease has not run out, or it can be
leased at some later time, if nothing happens to it until then. -/
def JobRow.Live (now : Time) (row : JobRow) : Prop :=
  row.state = .SUCCEEDED ∨ (row.state = .DEAD ∧ ∃ row', row.resume now = .ok row') ∨
    (row.state = .LEASED ∧ ∃ u ∈ row.leaseUntil, now ≤ u) ∨
    ∃ later, now ≤ later ∧ ∀ worker secs, (hcgLeaseJob later worker secs row).isSome

/-- The worker has the last allowed attempt of the job. -/
def JobRow.OnLastAttempt (row : JobRow) : Prop :=
  row.state = .LEASED ∧ row.maxAttempts ≤ row.attempt

/-- What the statements make of a row. -/
structure JobRow.Sound (row : JobRow) : Prop where
  budget : 1 ≤ row.maxAttempts
  pending : row.state = .PENDING → row.attempt < row.maxAttempts ∧ row.leaseUntil = none
  leased : row.state = .LEASED → row.attempt ≤ row.maxAttempts ∧ row.leaseUntil ≠ none
  unfailed : row.state ≠ .FAILED

theorem hcgLeaseJob_isSome {now : Time} {worker : String} {secs : Int} {row : JobRow} :
    (hcgLeaseJob now worker secs row).isSome ↔
      (row.state = .PENDING ∨ row.state = .LEASED) ∧ row.attempt < row.maxAttempts ∧
        row.nextRunAt ≤ now ∧ ∀ u ∈ row.leaseUntil, u < now := by
  unfold hcgLeaseJob
  split <;> simp_all

theorem resume_isOk {now : Time} {row : JobRow} :
    (∃ row', row.resume now = .ok row') ↔
      row.state = .DEAD ∧ row.maxAttempts + row.attempt ≤ maxInteger := by
  constructor
  · rintro ⟨row', h⟩
    obtain ⟨hdead, hfits, -⟩ := resume_eq_ok h
    exact ⟨hdead, hfits⟩
  · rintro ⟨hdead, hfits⟩
    refine ⟨setResumed now row, ?_⟩
    unfold JobRow.resume
    rw [if_neg (not_not.mpr hdead), if_neg (not_lt.mpr hfits)]
    rfl

/-- A sound row is live, unless it is leased on its last attempt and the lease has run out, or it
is dead and its next budget does not fit. -/
theorem JobRow.Sound.live_iff {now : Time} {row : JobRow} (h : row.Sound) :
    row.Live now ↔ (row.OnLastAttempt → ∃ u ∈ row.leaseUntil, now ≤ u) ∧
      (row.state = .DEAD → row.maxAttempts + row.attempt ≤ maxInteger) := by
  unfold JobRow.Live JobRow.OnLastAttempt
  simp only [hcgLeaseJob_isSome, resume_isOk]
  cases hstate : row.state with
  | PENDING =>
    obtain ⟨hbudget, hnone⟩ := h.pending hstate
    simp only [hnone, reduceCtorEq, false_and, IsEmpty.forall_iff, and_self, iff_true]
    refine .inr (.inr (.inr ⟨max now row.nextRunAt, le_max_left _ _, fun _ _ => ?_⟩))
    exact ⟨.inl trivial, hbudget, le_max_right _ _, fun _ hu => by cases hu⟩
  | LEASED =>
    obtain ⟨hle, hsome⟩ := h.leased hstate
    obtain ⟨u, hu⟩ := Option.ne_none_iff_exists'.mp hsome
    simp only [hu, reduceCtorEq, false_and, false_or, true_and, Option.mem_def, Option.some.injEq,
      exists_eq_left', IsEmpty.forall_iff, and_true]
    constructor
    · rintro (hnow | ⟨_, -, hlease⟩) hlast
      · exact hnow
      · obtain ⟨hbudget, -⟩ := hlease "" 0
        omega
    · intro hlast
      by_cases hbudget : row.attempt < row.maxAttempts
      · -- Another attempt is left: it can be made once the lease has run out.
        refine .inr ⟨max now (max row.nextRunAt (u + 1)), le_max_left _ _, fun _ _ => ?_⟩
        refine ⟨hbudget, ?_, fun v hv => ?_⟩
        · exact (le_max_left _ _).trans (le_max_right _ _)
        · have hlater : u + 1 ≤ max now (max row.nextRunAt (u + 1)) :=
            (le_max_right _ _).trans (le_max_right _ _)
          obtain rfl := hv
          exact (Int.lt_succ u).trans_le hlater
      · exact .inl (hlast (by omega))
  | SUCCEEDED => simp
  | FAILED => exact absurd hstate h.unfailed
  | DEAD => simp

/-! ### The invariant -/

/-- While a job is leased at the attempt of `c`, it has the budget that `c` was told. -/
def ClaimedJob.Matches (c : ClaimedJob) (row : JobRow) : Prop :=
  row.state = .LEASED → row.attempt = c.attempt → row.maxAttempts = c.maxAttempts

/-- The invariant behind `progress_iff`. -/
structure Queue.Steady (s : Queue) : Prop where
  fenced : s.Fenced
  sound : s.rows.All fun r => ∀ row ∈ r, row.Sound
  matched : ∀ c ∈ s.issued, (∀ row ∈ s.rows.committed c.jobId, c.Matches row) ∧
    ∀ h ∈ s.rows.held c.jobId, ∀ row ∈ h.version, c.Matches row

theorem setFailed_sound {now : Time} {job : ClaimedJob} {kind : FailureKind} {reason : String}
    {delay : Nat} {row : JobRow} (h : row.Sound) (hattempt : row.attempt = job.attempt)
    (hmax : row.maxAttempts = job.maxAttempts) :
    (setFailed now job kind reason delay row).Sound ∧
      (setFailed now job kind reason delay row).state ≠ .LEASED := by
  unfold setFailed
  dsimp only
  split
  · exact ⟨⟨h.budget, nofun, nofun, nofun⟩, nofun⟩
  · rename_i hretry
    have hleft : job.attempt < job.maxAttempts := by
      by_contra hnot
      exact hretry (.inr (by simpa [ClaimedJob.exhausted] using hnot))
    refine ⟨⟨h.budget, fun _ => ⟨?_, rfl⟩, nofun, nofun⟩, nofun⟩
    show row.attempt < row.maxAttempts
    omega

section
variable {s s' : Queue} {x : TxId} {ses ses' : Session} {id : JobId} {row' : JobRow}

/-- The version that a transaction reads matches the leases. -/
theorem Queue.Steady.version_matches (h : s.Steady) {c : ClaimedJob} (hc : c ∈ s.issued)
    {row : JobRow} (hrow : s.rows.version x c.jobId = some row) : c.Matches row := by
  obtain ⟨hcommitted, hheld⟩ := h.matched c hc
  unfold Rows.version at hrow
  cases hl : s.rows.held c.jobId with
  | none =>
    rw [hl] at hrow
    exact hcommitted row hrow
  | some l =>
    rw [hl] at hrow
    dsimp only at hrow
    split at hrow
    · exact hheld l hl row hrow
    · exact hcommitted row hrow

/-- Every statement leaves a sound row, which matches the leases of the job. -/
theorem Queue.Steady.statement (h : s.Steady) {row : Option JobRow} (hses : s.sessions x = some ses)
    (hversion : s.rows.version x id = row) (hstatement : Statement s x ses id row ses' row') :
    row'.Sound ∧ ∀ c ∈ s.issued, c.jobId = id → c.Matches row' := by
  have hsound : ∀ r, row = some r → r.Sound := fun r hr =>
    h.sound.version r (hversion.trans hr)
  have hmatches : ∀ r, row = some r → ∀ c ∈ s.issued, c.jobId = id → c.Matches r := by
    rintro r hr c hc rfl
    exact h.version_matches hc (hversion.trans hr)
  cases hstatement with
  | @leased _ row _ r left hrole hleased =>
    obtain ⟨-, hbudget, rfl⟩ := hcgLeaseJob_eq_some hleased
    refine ⟨⟨(hsound _ rfl).budget, nofun, fun _ => ⟨hbudget, nofun⟩, nofun⟩, ?_⟩
    rintro c hc rfl - hattempt
    -- The new attempt is past every lease that has been handed out.
    obtain ⟨row₀, hrow₀, hle⟩ := h.fenced.issued c hc
    rw [Rows.version_of_not_held ((h.fenced.backed x ses hses).looking _ _ hrole _), hrow₀] at hversion
    obtain rfl := Option.some.inj hversion
    have hattempt : row₀.attempt + 1 = c.attempt := hattempt
    omega
  | @fenced job row _ completes set htakes hissued hset hupdate =>
    obtain ⟨hleased, hattempt, rfl⟩ := fencedUpdate_eq_some hupdate
    have hmax := h.version_matches hissued hversion hleased hattempt
    have hrow := hsound row rfl
    cases hset with
    | renewed secs =>
      refine ⟨⟨hrow.budget, fun hp => ?_, fun _ => ⟨(hrow.leased hleased).1, nofun⟩, hrow.unfailed⟩, ?_⟩
      · have hp : row.state = .PENDING := hp
        rw [hleased] at hp
        cases hp
      · exact fun c hc hid => hmatches row rfl c hc hid
    | completed => exact ⟨⟨hrow.budget, nofun, nofun, nofun⟩, fun _ _ _ hl => by cases hl⟩
    | failed kind reason delay =>
      obtain ⟨hsound', hunleased⟩ := setFailed_sound
        hrow hattempt hmax
      exact ⟨hsound', fun _ _ _ hl => absurd hl hunleased⟩
  | locked => exact ⟨hsound row' rfl, hmatches row' rfl⟩
  | @resumed _ row _ _ hresume =>
    obtain ⟨-, -, rfl⟩ := resume_eq_ok hresume
    have hbudget := (hsound row rfl).budget
    refine ⟨⟨?_, fun _ => ⟨?_, rfl⟩, nofun, nofun⟩, fun _ _ _ hl => by cases hl⟩
    · show 1 ≤ row.maxAttempts + row.attempt
      omega
    · show row.attempt < row.maxAttempts + row.attempt
      omega
  | enqueued _ _ hmax =>
    exact ⟨⟨hmax, fun _ => ⟨hmax, rfl⟩, nofun, nofun⟩, fun _ _ _ hl => by cases hl⟩

theorem steady_start (now : Time) : (Queue.start now).Steady where
  fenced := fenced_start now
  sound := by
    refine ⟨fun _ _ h => ?_, fun _ _ h => ?_⟩ <;> cases h
  matched _ h := by cases h

theorem Queue.Steady.write {ids : List JobId} (h : s.Steady)
    (hfenced : Queue.Fenced { s.write x ses' id row' with ids := ids }) (hsound : row'.Sound)
    (hmatches : ∀ c ∈ s.issued, c.jobId = id → c.Matches row') :
    Queue.Steady { s.write x ses' id row' with ids := ids } where
  fenced := hfenced
  sound := h.sound.put fun r hr => by
    obtain rfl : row' = r := Option.some.inj hr
    exact hsound
  matched c hc := by
    obtain ⟨hcommitted, hheld⟩ := h.matched c hc
    refine ⟨hcommitted, fun l hl r hr => ?_⟩
    have hl : (s.rows.put x id (some row')).held c.jobId = some l := hl
    by_cases hid : c.jobId = id
    · subst hid
      rw [Rows.held_put_self] at hl
      obtain rfl := Option.some.inj hl
      obtain rfl : row' = r := Option.some.inj hr
      exact hmatches c hc rfl
    · rw [Rows.held_put_of_ne hid] at hl
      exact hheld l hl r hr

/-- The lease that a claim hands out matches its job. -/
theorem Queue.Steady.commit (h : s.Steady) (hses : s.sessions x = some ses) (hmay : ses.mayCommit) :
    Queue.Steady { s with
      rows := s.rows.commit x
      sessions := Function.update s.sessions x none
      issued := s.issued ++ ses.claimed
      effects := s.effects ++ ses.handled } where
  fenced := h.fenced.commit hses hmay
  sound := h.sound.commit
  matched c hc := by
    rcases List.mem_append.mp hc with hc | hc
    · refine ⟨fun r hr => h.version_matches hc hr, fun l hl => ?_⟩
      exact (h.matched c hc).2 l (Rows.held_commit.mp hl).1
    · obtain ⟨row, r', -, hheld, -, -, hclaimed⟩ := (h.fenced.backed x ses hses).won c hc
      constructor
      · intro r hr
        have hversion : s.rows.version x c.jobId = some r := hr
        rw [Rows.version_of_held hheld rfl] at hversion
        obtain rfl := Option.some.inj hversion
        exact fun _ _ => congrArg ClaimedJob.maxAttempts hclaimed
      · intro l hl
        obtain ⟨hl, hx⟩ := Rows.held_commit.mp hl
        rw [hheld] at hl
        exact absurd (by rw [← Option.some.inj hl]) hx

theorem Queue.Steady.rollback (h : s.Steady) : Queue.Steady { s with
      rows := s.rows.rollback x
      sessions := Function.update s.sessions x none } where
  fenced := h.fenced.rollback
  sound := h.sound.rollback
  matched c hc := by
    refine ⟨(h.matched c hc).1, fun l hl => ?_⟩
    exact (h.matched c hc).2 l (Rows.held_rollback.mp hl).1

/-- Every action keeps the invariant. -/
theorem Step.steady {a : Action} (h : s.Steady) (hstep : Step s a s') : s'.Steady := by
  have hfenced := hstep.fenced h.fenced
  cases hstep.effect fun k hk => (h.fenced.known k hk).2 with
  | tick | opened | looped => exact ⟨hfenced, h.sound, h.matched⟩
  | raised => exact h
  | wrote hses hfree hversion hstatement hids hnew =>
    obtain ⟨hsound, hmatches⟩ := h.statement hses hversion hstatement
    exact h.write hfenced hsound hmatches
  | committed hses hmay => exact h.commit hses hmay
  | rolledBack => exact h.rollback

/-! ### The jobs of a run -/

/-- No job is stuck. -/
def Queue.Unstuck (s : Queue) : Prop :=
  ∀ id row, s.rows.committed id = some row → row.Live s.now

/-- The lease on a last attempt has not run out at `now`. -/
def JobRow.InTime (now : Time) (row : JobRow) : Prop :=
  row.OnLastAttempt → ∃ u ∈ row.leaseUntil, now ≤ u

/-- No worker lets the lease on the last allowed attempt of a job run out: the clock does not pass
it, and a lease does not come too late. And the attempts of a job that dies fit its next budget. -/
def Action.Spares (s : Queue) : Action → Prop
  | .tick now => ∀ id row, s.rows.committed id = some row → row.InTime now
  | .commit x => ∀ id row, s.rows.held id = some ⟨x, some row⟩ →
      row.InTime s.now ∧ (row.state = .DEAD → row.maxAttempts + row.attempt ≤ maxInteger)
  | _ => True

/-- An action that neither moves the clock nor commits changes no job. -/
theorem Effect.quiet {a : Action} (h : Effect s a s') (htick : ∀ now, a ≠ .tick now)
    (hcommit : ∀ x, a ≠ .commit x) :
    s'.now = s.now ∧ s'.rows.committed = s.rows.committed := by
  cases h with
  | @tick now _ => exact absurd rfl (htick now)
  | @committed x _ _ _ => exact absurd rfl (hcommit x)
  | raised | opened | looped | wrote | rolledBack => exact ⟨rfl, rfl⟩

/-- The clock alone makes a job stuck only by passing the lease on its last attempt. -/
theorem tick_unstuck {now : Time} (h : s.Steady) (hunstuck : s.Unstuck) :
    Queue.Unstuck { s with now := now } ↔ Action.Spares s (.tick now) := by
  constructor
  · intro hlater id row hrow
    exact ((h.sound.1 id row hrow).live_iff.mp (hlater id row hrow)).1
  · intro hspares id row hrow
    have hnow := (h.sound.1 id row hrow).live_iff.mp (hunstuck id row hrow)
    exact (h.sound.1 id row hrow).live_iff.mpr ⟨hspares id row hrow, hnow.2⟩

/-- A commit makes a job stuck only by what the transaction has written. -/
theorem commit_unstuck (h : s.Steady) (hunstuck : s.Unstuck) {s' : Queue} (hnow : s'.now = s.now)
    (hrows : s'.rows = s.rows.commit x) : s'.Unstuck ↔ Action.Spares s (.commit x) := by
  constructor
  · intro hlater id row hheld
    have hrow : s'.rows.committed id = some row := by
      rw [hrows, Rows.committed_commit, Rows.version_of_held hheld rfl]
    have hlive := (h.sound.2 id _ hheld row rfl).live_iff.mp (hlater id row hrow)
    rwa [hnow] at hlive
  · intro hspares id row hrow
    rw [hrows, Rows.committed_commit] at hrow
    rw [hnow]
    cases hl : s.rows.held id with
    | none =>
      rw [Rows.version_of_not_held (by simp [hl])] at hrow
      exact hunstuck id row hrow
    | some l =>
      obtain ⟨y, r⟩ := l
      by_cases hy : y = x
      · subst hy
        rw [Rows.version_of_held hl rfl] at hrow
        obtain rfl : r = some row := hrow
        exact (h.sound.2 id _ hl row rfl).live_iff.mpr (hspares id row hl)
      · rw [Rows.version_of_not_held (by simp [hl, hy])] at hrow
        exact hunstuck id row hrow

theorem Step.unstuck_iff {a : Action} (h : s.Steady) (hunstuck : s.Unstuck)
    (hstep : Step s a s') : s'.Unstuck ↔ a.Spares s := by
  have heffect := hstep.effect fun k hk => (h.fenced.known k hk).2
  have hquiet : (∀ now, a ≠ .tick now) → (∀ x, a ≠ .commit x) → s'.Unstuck := by
    intro htick hcommit
    obtain ⟨hnow, hrows⟩ := heffect.quiet htick hcommit
    intro id row hrow
    rw [hnow]
    exact hunstuck id row (hrows ▸ hrow)
  cases a with
  | tick now =>
    have hstep : (if s.now ≤ now then some { s with now := now } else none) = some s' := hstep
    split at hstep
    · obtain rfl := Option.some.inj hstep
      exact tick_unstuck h hunstuck
    · cases hstep
  | commit x =>
    have hstep : s.commit x = some s' := hstep
    unfold Queue.commit at hstep
    obtain ⟨_, -, hstep⟩ := Option.bind_eq_some_iff.mp hstep
    split at hstep
    · obtain rfl := Option.some.inj hstep
      exact commit_unstuck h hunstuck rfl rfl
    · cases hstep
  | _ => exact iff_of_true (hquiet nofun nofun) trivial

end

/-- No job gets stuck in a run of the queue if and only if no worker lets the lease on the last
allowed attempt of a job run out, and every job that dies can be given its next budget. -/
theorem progress_iff (now : Time) (as : List Action) :
    (∀ pre post s, as = pre ++ post → Steps Step (.start now) pre s → s.Unstuck) ↔
      ∀ s a s', StepOf Step (.start now) as s a s' → a.Spares s :=
  Steps.stays_iff (steady_start now) (fun _ _ _ h hs => hs.steady h) (fun _ _ h => by cases h)
    fun _ _ _ h hunstuck hs => hs.unstuck_iff h hunstuck

namespace Sample

/-- The worker of the second and last attempt crashes: it does nothing more. -/
def crash : List Action :=
  enqueueOne ++ claimIn 1 ++ [Action.tick (seconds 61)] ++ claimIn 2 ++ [.tick (seconds 122)]

end Sample

/-- After the crash the job can neither be leased, at any time, nor be resumed. -/
theorem crash_on_last_attempt :
    ∃ s row, Steps Step (.start 0) Sample.crash s ∧ s.rows.committed 7 = some row ∧
      row.attempt = 2 ∧ row.maxAttempts = 2 ∧ ¬ row.Live s.now := by
  obtain ⟨s, hrun, hview⟩ : ∃ s, (Queue.start 0).run Sample.crash = some s ∧
      (s.now, s.rows.committed 7) = (seconds 122, some ⟨"K", "k:1", "x", .LEASED, 2, 2, some "w",
        some (seconds 121), 0, none⟩) :=
    Option.map_eq_some_iff.mp (by decide +kernel)
  obtain ⟨hnow, hrow⟩ := Prod.mk.inj hview
  refine ⟨s, _, Queue.run_steps hrun, hrow, rfl, rfl, ?_⟩
  rw [hnow]
  rintro (hdone | ⟨hdead, -⟩ | ⟨-, u, hu, hle⟩ | ⟨later, -, hlease⟩)
  · cases hdone
  · cases hdead
  · obtain rfl := Option.some.inj hu
    exact absurd hle (by decide)
  · exact absurd (hcgLeaseJob_isSome.mp (hlease "" 0)).2.1 (by decide)

end Rackline.Jobs
