import Mathlib.Data.List.Nodup
import Rackline.JobQueue

/-!
# `Rackline.Proofs.JobFencing`: one lease, one effect

Whatever the workers do, the attempt of a job grows with every lease and is never reset, so a
lease is identified by the job and the attempt; a worker whose lease is no longer the current one
changes nothing; a job that has succeeded stays so; and the handler of a job commits at most once.

`Effect` says what one action does: it writes one row that no other transaction has locked, or it
ends a transaction. `Follows` is what a row goes through. A transaction that has won a lease, used
one, or completed a job holds the row of that job (`Holds`), so nothing happens to the row until
the transaction ends.
-/

set_option autoImplicit false

namespace Rackline.Jobs

open RowLock Transition

/-! ### One statement -/

variable {now : Time} {row row' : JobRow} {job : ClaimedJob} {worker : String} {secs : Int}

theorem hcgLeaseJob_eq_some (h : hcgLeaseJob now worker secs row = some row') :
    (row.state = .PENDING ∨ row.state = .LEASED) ∧ row.attempt < row.maxAttempts ∧
      row' = { row with
        state := .LEASED
        leasedBy := some worker
        leaseUntil := some (now + seconds secs)
        attempt := row.attempt + 1 } := by
  unfold hcgLeaseJob at h
  split at h
  · rename_i hc
    exact ⟨hc.1, hc.2.1, (Option.some.inj h).symm⟩
  · cases h

theorem fencedUpdate_eq_some {set : JobRow → JobRow} (h : fencedUpdate now job set row = some row') :
    row.state = .LEASED ∧ row.attempt = job.attempt ∧ row' = set row := by
  unfold fencedUpdate at h
  split at h
  · rename_i hc
    exact ⟨hc.1, hc.2.2.1, (Option.some.inj h).symm⟩
  · cases h

theorem resume_eq_ok (h : row.resume now = .ok row') :
    row.state = .DEAD ∧ row.maxAttempts + row.attempt ≤ maxInteger ∧ row' = setResumed now row := by
  unfold JobRow.resume at h
  split at h
  · cases h
  · rename_i hdead
    split at h
    · cases h
    · rename_i hmax
      exact ⟨not_not.mp hdead, not_lt.mp hmax, (Except.ok.inj h).symm⟩

/-- What a fenced update may set: it keeps the attempt and the budget. -/
inductive Sets (now : Time) (job : ClaimedJob) : Bool → (JobRow → JobRow) → Prop
  | renewed (secs : Int) : Sets now job false (setRenewed now secs)
  | completed : Sets now job true setCompleted
  | failed (kind : FailureKind) (reason : String) (delay : Nat) :
      Sets now job false (setFailed now job kind reason delay)

theorem setFailed_attempt {kind : FailureKind} {reason : String} {delay : Nat} :
    (setFailed now job kind reason delay row).attempt = row.attempt := by
  unfold setFailed
  split <;> rfl

theorem Sets.attempt {completes : Bool} {set : JobRow → JobRow} (h : Sets now job completes set) :
    (set row).attempt = row.attempt := by
  cases h with
  | renewed => rfl
  | completed => rfl
  | failed => exact setFailed_attempt

/-! ### One action -/

/-- What a statement of `x` makes of the row of `id`, and of its transaction. -/
inductive Statement (s : Queue) (x : TxId) (ses : Session) :
    JobId → Option JobRow → Session → JobRow → Prop
  | leased {id : JobId} {row row' : JobRow} {r : ClaimRequest} {left : List JobId} :
      ses.role = .claim r (some (id :: left)) none →
      hcgLeaseJob ses.now r.workerId r.leaseSeconds row = some row' →
      Statement s x ses id (some row)
        { ses with role := .claim r (some left) (some (row'.claimed id r.workerId)) } row'
  | fenced {job : ClaimedJob} {row row' : JobRow} {completes : Bool} {set : JobRow → JobRow} :
      ses.takes → job ∈ s.issued → Sets ses.now job completes set →
      fencedUpdate ses.now job set row = some row' →
      Statement s x ses job.jobId (some row) (ses.use job completes) row'
  | locked {id : JobId} {row : JobRow} : ses.takes → Statement s x ses id (some row) ses row
  | resumed {id : JobId} {row row' : JobRow} :
      ses.takes → row.resume ses.now = .ok row' → Statement s x ses id (some row) ses row'
  | enqueued {id : JobId} {row : Option JobRow} {kind key payload : String} {maxAttempts : Nat}
      {runAt : Option Time} :
      ses.takes → id ∉ s.ids → 1 ≤ maxAttempts →
      Statement s x ses id row ses (enqueued ses.now kind key payload maxAttempts runAt)

/-- The roles in which a transaction begins. -/
def Role.Fresh (issued : List ClaimedJob) : Role → Prop
  | .caller => True
  | .claim _ _ won => won = none
  | .handler job completed => job ∈ issued ∧ completed = false

/-- What an action does. -/
inductive Effect (s : Queue) : Action → Queue → Prop
  | tick {now : Time} : s.now ≤ now → Effect s (.tick now) { s with now := now }
  | raised (a : Action) : Effect s a s
  | opened {a : Action} {x : TxId} {role : Role} :
      s.sessions x = none → role.Fresh s.issued → Effect s a (s.goOn x ⟨s.now, role, []⟩)
  | looped {a : Action} {x : TxId} {ses : Session} {r : ClaimRequest}
      {left left' : Option (List JobId)} :
      s.sessions x = some ses → ses.role = .claim r left none →
      Effect s a (s.goOn x { ses with role := .claim r left' none })
  | wrote {a : Action} {x : TxId} {ses ses' : Session} {id : JobId} {row : Option JobRow}
      {row' : JobRow} {ids : List JobId} :
      s.sessions x = some ses → s.rows.Free x id → s.rows.version x id = row →
      Statement s x ses id row ses' row' → s.ids ⊆ ids → (row = none → id ∈ ids) →
      Effect s a { s.write x ses' id row' with ids := ids }
  | committed {x : TxId} {ses : Session} :
      s.sessions x = some ses → ses.mayCommit →
      Effect s (.commit x) { s with
        rows := s.rows.commit x
        sessions := Function.update s.sessions x none
        issued := s.issued ++ ses.claimed
        effects := s.effects ++ ses.handled }
  | rolledBack {x : TxId} {ses : Session} :
      s.sessions x = some ses →
      Effect s (.rollback x) { s with
        rows := s.rows.rollback x
        sessions := Function.update s.sessions x none }

section
variable {s s' : Queue} {x : TxId}

theorem open_effect {a : Action} {role : Role} (h : s.open_ x role = some s')
    (hrole : role.Fresh s.issued) : Effect s a s' := by
  unfold Queue.open_ at h
  split at h
  · rename_i hnone
    obtain rfl := Option.some.inj h
    exact .opened hnone hrole
  · cases h

theorem select_effect (h : s.select x = some s') : Effect s (.select x) s' := by
  unfold Queue.select at h
  obtain ⟨ses, hses, h⟩ := Option.bind_eq_some_iff.mp h
  split at h
  · rename_i r hrole
    obtain rfl := Option.some.inj h
    exact .looped hses hrole
  · cases h

theorem lease_effect (h : s.lease x = some s') : Effect s (.lease x) s' := by
  unfold Queue.lease at h
  obtain ⟨ses, hses, h⟩ := Option.bind_eq_some_iff.mp h
  split at h
  · rename_i r id left hrole
    split at h
    · rename_i row' hwon
      obtain ⟨row, hrow, hleased⟩ := Option.bind_eq_some_iff.mp hwon
      split at h
      · rename_i hfree
        obtain rfl := Option.some.inj h
        exact .wrote hses hfree hrow (.leased hrole hleased) (List.Subset.refl _) (by simp)
      · cases h
    · obtain rfl := Option.some.inj h
      exact .looped hses hrole
  · cases h

theorem fenced_effect {a : Action} {completes : Bool} {set : Time → JobRow → JobRow}
    (h : s.fenced x job completes set = some s')
    (hset : ∀ now, Sets now job completes (set now)) : Effect s a s' := by
  unfold Queue.fenced at h
  obtain ⟨ses, hses, h⟩ := Option.bind_eq_some_iff.mp h
  split at h
  · rename_i hc
    split at h
    · rename_i row' hmatch
      obtain ⟨row, hrow, hupdate⟩ := Option.bind_eq_some_iff.mp hmatch
      split at h
      · rename_i hfree
        obtain rfl := Option.some.inj h
        exact .wrote hses hfree hrow (.fenced hc.1 hc.2 (hset _) hupdate) (List.Subset.refl _)
          (by simp)
      · cases h
    · obtain rfl := Option.some.inj h
      exact .raised a
  · cases h

theorem resume_effect {a : Action} {id : JobId} {actor actorRole reason : String}
    (h : s.resume x id actor actorRole reason = some s') : Effect s a s' := by
  unfold Queue.resume at h
  obtain ⟨ses, hses, h⟩ := Option.bind_eq_some_iff.mp h
  split at h
  · rename_i hc
    split at h
    · split at h
      · rename_i row hrow
        split at h
        · rename_i row' hresume
          obtain rfl := Option.some.inj h
          exact .wrote hses hc.2 hrow (.resumed hc.1 hresume) (List.Subset.refl _) (by simp)
        · obtain rfl := Option.some.inj h
          exact .wrote hses hc.2 hrow (.locked hc.1) (List.Subset.refl _) (by simp)
      · obtain rfl := Option.some.inj h
        exact .raised a
    · obtain rfl := Option.some.inj h
      exact .raised a
  · cases h

theorem enqueue_effect {a : Action} {id : JobId} {kind key payload : String} {maxAttempts : Nat}
    {runAt : Option Time} (hknown : ∀ k, k ∉ s.ids → s.rows.held k = none)
    (h : s.enqueue x id kind key payload maxAttempts runAt = some s') : Effect s a s' := by
  unfold Queue.enqueue at h
  obtain ⟨ses, hses, h⟩ := Option.bind_eq_some_iff.mp h
  split at h
  · rename_i hc
    split at h
    · rename_i hmax
      split at h
      · obtain rfl := Option.some.inj h
        exact .raised a
      · split at h
        · cases h
        · obtain rfl := Option.some.inj h
          have hfree : s.rows.Free x id := by
            intro l hl
            rw [hknown id hc.2.1] at hl
            cases hl
          exact .wrote hses hfree rfl (.enqueued hc.1 hc.2.1 hmax.1)
            (List.subset_cons_self id s.ids) fun _ => List.mem_cons_self
    · obtain rfl := Option.some.inj h
      exact .raised a
  · cases h

/-- An action does what `Effect` says. -/
theorem Step.effect {a : Action} (hknown : ∀ k, k ∉ s.ids → s.rows.held k = none)
    (h : Step s a s') : Effect s a s' := by
  cases a with
  | tick now =>
    have h : (if s.now ≤ now then some { s with now := now } else none) = some s' := h
    split at h
    · rename_i hle
      obtain rfl := Option.some.inj h
      exact .tick hle
    · cases h
  | begin_ x => exact (open_effect h : Role.caller.Fresh s.issued → _) trivial
  | enqueue => exact enqueue_effect hknown h
  | claim x r =>
    have h : (if r.kinds ≠ [] ∧ r.jobIds ≠ some [] then s.open_ x (.claim r none none) else none) =
        some s' := h
    split at h
    · exact open_effect h rfl
    · cases h
  | select x => exact select_effect h
  | lease x => exact lease_effect h
  | renewLease x job secs =>
    have h : s.fenced x job false (fun now => setRenewed now secs) = some s' := h
    exact fenced_effect h fun _ => .renewed secs
  | runOne x job =>
    have h : (if job ∈ s.issued then s.open_ x (.handler job false) else none) = some s' := h
    split at h
    · rename_i hissued
      exact open_effect h ⟨hissued, rfl⟩
    · cases h
  | complete x job =>
    have h : s.fenced x job true (fun _ => setCompleted) = some s' := h
    exact fenced_effect h fun _ => .completed
  | fail x job kind reason delay =>
    have h : s.fenced x job false (fun now => setFailed now job kind reason delay) = some s' := h
    exact fenced_effect h fun _ => .failed kind reason delay
  | resume => exact resume_effect h
  | commit x =>
    have h : s.commit x = some s' := h
    unfold Queue.commit at h
    obtain ⟨ses, hses, h⟩ := Option.bind_eq_some_iff.mp h
    split at h
    · rename_i hmay
      obtain rfl := Option.some.inj h
      exact .committed hses hmay
    · cases h
  | rollback x =>
    have h : s.rollback x = some s' := h
    unfold Queue.rollback at h
    obtain ⟨ses, hses, h⟩ := Option.bind_eq_some_iff.mp h
    obtain rfl := Option.some.inj h
    exact .rolledBack hses

end

/-! ### What a row goes through -/

/-- The attempt is never reset, and a job that has succeeded is final. -/
structure Follows (row row' : JobRow) : Prop where
  attempt : row.attempt ≤ row'.attempt
  final : row.state = .SUCCEEDED → row' = row

/-- A job is never deleted, and follows what it was. -/
def Next (r r' : Option JobRow) : Prop := ∀ row ∈ r, ∃ row' ∈ r', Follows row row'

theorem Follows.refl (row : JobRow) : Follows row row := ⟨le_rfl, fun _ => rfl⟩

theorem Follows.trans {a b c : JobRow} (h₁ : Follows a b) (h₂ : Follows b c) : Follows a c where
  attempt := h₁.attempt.trans h₂.attempt
  final h := by
    have hb := h₁.final h
    rw [h₂.final (hb ▸ h), hb]

theorem Next.refl (r : Option JobRow) : Next r r := fun row hrow => ⟨row, hrow, .refl row⟩

theorem Next.trans {a b c : Option JobRow} (h₁ : Next a b) (h₂ : Next b c) : Next a c := by
  intro row hrow
  obtain ⟨row', hrow', hfollows⟩ := h₁ row hrow
  obtain ⟨row'', hrow'', hfollows'⟩ := h₂ row' hrow'
  exact ⟨row'', hrow'', hfollows.trans hfollows'⟩

section
variable {s : Queue} {x : TxId} {ses ses' : Session} {id : JobId}

/-- Every statement moves its row along `Follows`. -/
theorem Statement.follows {row : JobRow} (h : Statement s x ses id (some row) ses' row')
    (hknown : id ∉ s.ids → some row = none) : Follows row row' := by
  cases h with
  | leased _ hleased =>
    obtain ⟨hstate, -, rfl⟩ := hcgLeaseJob_eq_some hleased
    exact ⟨Nat.le_succ _, fun h => by simp [h] at hstate⟩
  | fenced _ _ hset hupdate =>
    obtain ⟨hstate, -, rfl⟩ := fencedUpdate_eq_some hupdate
    exact ⟨hset.attempt.ge, fun h => by simp [h] at hstate⟩
  | locked => exact .refl _
  | resumed _ hresume =>
    obtain ⟨hstate, -, rfl⟩ := resume_eq_ok hresume
    exact ⟨le_rfl, fun h => by simp [h] at hstate⟩
  | enqueued _ hid => cases hknown hid

end

/-! ### What a transaction holds -/

/-- `x` holds the row of `id`; `P` relates the committed row to the version of `x`. -/
def Queue.Holds (s : Queue) (x : TxId) (id : JobId) (P : JobRow → JobRow → Prop) : Prop :=
  ∃ row row', s.rows.committed id = some row ∧ s.rows.held id = some ⟨x, some row'⟩ ∧ P row row'

/-- What an open transaction has done is backed by the rows it holds. -/
structure Session.Backed (ses : Session) (s : Queue) (x : TxId) : Prop where
  won : ∀ c ∈ ses.claimed, s.Holds x c.jobId fun row row' =>
    row'.attempt = row.attempt + 1 ∧ row'.state = .LEASED ∧ row'.claimed c.jobId c.workerId = c
  used : ∀ c ∈ ses.used, s.Holds x c.jobId fun row row' =>
    row.attempt = c.attempt ∧ row'.attempt = c.attempt
  completed : ∀ job, ses.role = .handler job true → s.Holds x job.jobId fun row row' =>
    row.state ≠ .SUCCEEDED ∧ row'.state = .SUCCEEDED
  /-- A claim that has not won yet holds nothing. -/
  looking : ∀ r left, ses.role = .claim r left none →
    ∀ k h, s.rows.held k = some h → h.holder ≠ x
  /-- Only a claim moves an attempt. -/
  kept : ses.takes → ∀ k h, s.rows.held k = some h → h.holder = x →
    ∀ row ∈ s.rows.committed k, ∀ row' ∈ h.version, row'.attempt = row.attempt

/-- The invariant of the queue. -/
structure Queue.Fenced (s : Queue) : Prop where
  known : ∀ k, k ∉ s.ids → s.rows.committed k = none ∧ s.rows.held k = none
  evolves : s.rows.Evolves Next
  locked : ∀ k h, s.rows.held k = some h → s.sessions h.holder ≠ none
  backed : ∀ x ses, s.sessions x = some ses → ses.Backed s x
  issued : ∀ c ∈ s.issued, ∃ row, s.rows.committed c.jobId = some row ∧ c.attempt ≤ row.attempt
  tokens : (s.issued.map fun c => (c.jobId, c.attempt)).Nodup
  done : ∀ c ∈ s.effects, ∃ row, s.rows.committed c.jobId = some row ∧ row.state = .SUCCEEDED
  once : (s.effects.map ClaimedJob.jobId).Nodup

section
variable {s s' : Queue} {x y : TxId} {ses : Session} {id : JobId}

theorem Queue.Holds.frame {P : JobRow → JobRow → Prop} (h : s.Holds y id P)
    (hframe : s.rows.Unmoved s'.rows y) : s'.Holds y id P := by
  obtain ⟨row, row', hrow, hheld, hP⟩ := h
  refine ⟨row, row', ?_, (hframe.held id _ rfl).mpr hheld, hP⟩
  rw [hframe.committed id _ hheld rfl, hrow]

/-- What happens to other rows does not matter to a transaction. -/
theorem Session.Backed.frame (h : ses.Backed s y) (hframe : s.rows.Unmoved s'.rows y) : ses.Backed s' y where
  won c hc := (h.won c hc).frame hframe
  used c hc := (h.used c hc).frame hframe
  completed job hrole := (h.completed job hrole).frame hframe
  looking r left hrole k l hl hholder :=
    h.looking r left hrole k l ((hframe.held k l hholder).mp hl) hholder
  kept htakes k l hl hholder := by
    have hl := (hframe.held k l hholder).mp hl
    rw [hframe.committed k l hl hholder]
    exact h.kept htakes k l hl hholder

end

/-! ### The invariant is kept -/

section
variable {s : Queue} {x : TxId} {ses ses' : Session} {id : JobId} {ids : List JobId}

/-- Outside a claim, the version that a transaction reads has the committed attempt. -/
theorem Session.Backed.version_attempt {row : JobRow} (h : ses.Backed s x) (htakes : ses.takes)
    (hversion : s.rows.version x id = some row) :
    ∀ row₀, s.rows.committed id = some row₀ → row.attempt = row₀.attempt := by
  intro row₀ hrow₀
  cases hheld : s.rows.held id with
  | none =>
    rw [Rows.version_of_not_held (by simp [hheld]), hrow₀] at hversion
    exact congrArg JobRow.attempt (Option.some.inj hversion).symm
  | some l =>
    by_cases hl : l.holder = x
    · rw [Rows.version_of_held hheld hl] at hversion
      exact h.kept htakes id l hheld hl row₀ hrow₀ row hversion
    · rw [Rows.version_of_not_held (by rintro _ heq; rwa [← Option.some.inj (hheld.symm.trans heq)]),
        hrow₀] at hversion
      exact congrArg JobRow.attempt (Option.some.inj hversion).symm

/-- What `x` holds, after it has written one more row. -/
theorem Queue.Holds.write {P : JobRow → JobRow → Prop} {k : JobId} (h : s.Holds x k P)
    (hP : k = id → ∀ row r, s.rows.version x id = some r → P row r → P row row') :
    Queue.Holds { s.write x ses' id row' with ids := ids } x k P := by
  obtain ⟨row, r, hrow, hheld, hr⟩ := h
  by_cases hk : k = id
  · subst hk
    refine ⟨row, row', hrow, Rows.held_put_self, hP rfl row r ?_ hr⟩
    rw [Rows.version_of_held hheld rfl]
  · refine ⟨row, r, hrow, ?_, hr⟩
    show (s.rows.put x id (some row')).held k = _
    rw [Rows.held_put_of_ne hk, hheld]

/-- A statement outside a claim leaves what its transaction has done backed. -/
theorem Session.Backed.write (h : ses.Backed s x) (htakes : ses.takes)
    (hrow : ∀ row, s.rows.version x id = some row →
      row'.attempt = row.attempt ∧ (row.state = .SUCCEEDED → row' = row))
    (hnone : s.rows.version x id = none → s.rows.committed id = none) :
    ses.Backed { s.write x ses' id row' with ids := ids } x where
  won c hc := by
    have hnil : ses.claimed = [] := by
      unfold Session.takes at htakes
      unfold Session.claimed
      cases hrole : ses.role with
      | claim => simp [hrole] at htakes
      | caller => rfl
      | handler => rfl
    simp [hnil] at hc
  used c hc := (h.used c hc).write fun _ _ r hr hP => ⟨hP.1, ((hrow r hr).1).trans hP.2⟩
  completed job hrole := (h.completed job hrole).write fun _ _ r hr hP => by
    rw [(hrow r hr).2 hP.2]
    exact hP
  looking r left hrole := by simp [Session.takes, hrole] at htakes
  kept _ k l hl hholder row hcommitted row'' hversion := by
    have hcommitted : s.rows.committed k = some row := hcommitted
    have hl : (s.rows.put x id (some row')).held k = some l := hl
    by_cases hk : k = id
    · subst hk
      rw [Rows.held_put_self] at hl
      obtain rfl := Option.some.inj hl
      obtain rfl : row' = row'' := Option.some.inj hversion
      cases hv : s.rows.version x k with
      | none => cases hcommitted.symm.trans (hnone hv)
      | some r => exact (hrow r hv).1.trans (h.version_attempt htakes hv row hcommitted)
    · rw [Rows.held_put_of_ne hk] at hl
      exact h.kept htakes k l hl hholder row hcommitted row'' hversion

/-- A row that can be read is known. -/
theorem Queue.Fenced.known_of_version (h : s.Fenced) {row : JobRow}
    (hversion : s.rows.version x id = some row) : id ∈ s.ids := by
  by_contra hid
  obtain ⟨hcommitted, hheld⟩ := h.known id hid
  rw [Rows.version_of_not_held (by simp [hheld]), hcommitted] at hversion
  cases hversion

theorem Queue.Fenced.committed_of_version (h : s.Fenced) (hversion : s.rows.version x id = none) :
    s.rows.committed id = none := by
  have hnext := h.evolves.version (t := x) (k := id) Next.refl
  cases hrow : s.rows.committed id with
  | none => rfl
  | some row =>
    obtain ⟨row', hrow', -⟩ := hnext row (by simp [hrow])
    simp [hversion] at hrow'

/-- A lease that is used belongs to the current attempt, and the job is not done. -/
theorem Queue.Fenced.fenced_backed (h : s.Fenced) {row : JobRow} {completes : Bool}
    {set : JobRow → JobRow} (hses : s.sessions x = some ses) (htakes : ses.takes)
    (hissued : job ∈ s.issued) (hset : Sets ses.now job completes set)
    (hversion : s.rows.version x job.jobId = some row)
    (hupdate : fencedUpdate ses.now job set row = some row') :
    (ses.use job completes).Backed
      { s.write x (ses.use job completes) job.jobId row' with ids := ids } x := by
  obtain ⟨hleased, hattempt, rfl⟩ := fencedUpdate_eq_some hupdate
  obtain ⟨row₀, hrow₀, -⟩ := h.issued job hissued
  have hback := h.backed x ses hses
  have hrow : ∀ r, s.rows.version x job.jobId = some r →
      (set row).attempt = r.attempt ∧ (r.state = .SUCCEEDED → set row = r) := by
    intro r hr
    obtain rfl := Option.some.inj (hversion.symm.trans hr)
    exact ⟨hset.attempt, fun hdone => by simp [hleased] at hdone⟩
  have hkept : ses.Backed { s.write x (ses.use job completes) job.jobId (set row) with ids := ids } x :=
    hback.write htakes hrow fun hnone => by simp [hversion] at hnone
  have hholds : Queue.Holds { s.write x (ses.use job completes) job.jobId (set row) with ids := ids }
      x job.jobId fun r r' => r = row₀ ∧ r' = set row :=
    ⟨row₀, set row, hrow₀, Rows.held_put_self, rfl, rfl⟩
  have hsame := hback.version_attempt htakes hversion row₀ hrow₀
  refine ⟨?_, ?_, ?_, ?_, ?_⟩
  · intro c hc
    refine hkept.won c ?_
    revert hc
    unfold Session.claimed Session.use
    cases ses.role <;> exact id
  · intro c hc
    rcases List.mem_cons.mp hc with rfl | hc
    · obtain ⟨r, r', hr, hheld, rfl, rfl⟩ := hholds
      exact ⟨r, _, hr, hheld, hsame.symm.trans hattempt, hset.attempt.trans hattempt⟩
    · exact hkept.used c hc
  · intro own hrole
    unfold Session.use at hrole
    dsimp only at hrole
    split at hrole
    · rename_i own' completed hrole'
      injection hrole with hown hdone
      subst hown
      rcases Bool.or_eq_true_iff.mp hdone with hdone | hdone
      · exact hkept.completed own' (hdone ▸ hrole')
      · -- The statement is the `complete` of the handler's own job.
        simp only [Bool.and_eq_true, decide_eq_true_eq] at hdone
        obtain ⟨hcompletes, rfl⟩ := hdone
        obtain ⟨r, r', hr, hheld, rfl, rfl⟩ := hholds
        refine ⟨r, _, hr, hheld, fun hdone => ?_, ?_⟩
        · have hnext := h.evolves.version (t := x) (k := own'.jobId) Next.refl
          obtain ⟨r', hr', hfollows⟩ := hnext r (by simp [hrow₀])
          obtain rfl := Option.some.inj (hversion.symm.trans hr')
          simp [hfollows.final hdone, hdone] at hleased
        · subst hcompletes
          cases hset
          rfl
    · rename_i hother
      exact absurd hrole (hother own true)
  · intro r left hrole
    unfold Session.use at hrole
    dsimp only at hrole
    split at hrole
    · cases hrole
    · simp [Session.takes, hrole] at htakes
  · intro _
    exact hkept.kept htakes

/-- The statements of `x` keep its transaction backed. -/
theorem Queue.Fenced.statement_backed (h : s.Fenced) {row : Option JobRow}
    (hses : s.sessions x = some ses) (hversion : s.rows.version x id = row)
    (hstatement : Statement s x ses id row ses' row') :
    ses'.Backed { s.write x ses' id row' with ids := ids } x := by
  have hback := h.backed x ses hses
  have hnone : s.rows.version x id = none → s.rows.committed id = none := h.committed_of_version
  cases hstatement with
  | @leased _ row₀ _ r left hrole hleased =>
    obtain ⟨-, -, rfl⟩ := hcgLeaseJob_eq_some hleased
    have hfree := hback.looking r _ hrole
    have hrow₀ : s.rows.committed id = some row₀ := by
      rw [← hversion, Rows.version_of_not_held (hfree id)]
    refine ⟨?_, ?_, fun _ hrole' => ?_, fun _ _ hrole' => ?_, ?_⟩
    · intro c hc
      obtain rfl := List.mem_singleton.mp hc
      exact ⟨row₀, _, hrow₀, Rows.held_put_self, rfl, rfl, rfl⟩
    · intro c hc
      obtain ⟨_, _, -, hheld, -⟩ := hback.used c hc
      exact absurd rfl (hfree _ _ hheld)
    · cases hrole'
    · cases hrole'
    · intro htakes
      simp [Session.takes] at htakes
  | fenced htakes hissued hset hupdate =>
    exact h.fenced_backed hses htakes hissued hset hversion hupdate
  | locked htakes =>
    refine hback.write htakes (fun r hr => ?_) hnone
    obtain rfl := Option.some.inj (hversion.symm.trans hr)
    exact ⟨rfl, fun _ => rfl⟩
  | resumed htakes hresume =>
    refine hback.write htakes (fun r hr => ?_) hnone
    obtain rfl := Option.some.inj (hversion.symm.trans hr)
    obtain ⟨hdead, -, rfl⟩ := resume_eq_ok hresume
    exact ⟨rfl, fun hdone => by simp [hdead] at hdone⟩
  | enqueued htakes hid =>
    refine hback.write htakes (fun r hr => ?_) hnone
    exact absurd (h.known_of_version hr) hid

/-- A transaction that begins has nothing to back. -/
theorem backed_fresh {role : Role} {now : Time} (hrole : role.Fresh s.issued)
    (hnone : ∀ k h, s.rows.held k = some h → h.holder ≠ x) :
    (Session.mk now role []).Backed s x where
  won c hc := by
    unfold Session.claimed at hc
    cases role with
    | claim _ _ won =>
      obtain rfl : won = none := hrole
      cases hc
    | caller => cases hc
    | handler => cases hc
  used c hc := by cases hc
  completed job hjob := by
    obtain rfl : role = .handler job true := hjob
    cases hrole.2
  looking _ _ _ := hnone
  kept _ k l hl hholder := absurd hholder (hnone k l hl)

theorem Queue.Fenced.tick (h : s.Fenced) (now : Time) : Queue.Fenced { s with now := now } where
  known := h.known
  evolves := h.evolves
  locked := h.locked
  backed y ses hses := (h.backed y ses hses).frame (.refl _ _)
  issued := h.issued
  tokens := h.tokens
  done := h.done
  once := h.once

/-- `x` goes on as `ses'`, without a write. -/
theorem Queue.Fenced.goOn (h : s.Fenced) (hses' : ses'.Backed s x) : (s.goOn x ses').Fenced where
  known := h.known
  evolves := h.evolves
  locked k l hl := by
    show Function.update s.sessions x (some ses') l.holder ≠ none
    by_cases hx : l.holder = x
    · simp [hx]
    · simpa [hx] using h.locked k l hl
  backed y ses hses := by
    have hses : Function.update s.sessions x (some ses') y = some ses := hses
    by_cases hy : y = x
    · subst hy
      rw [Function.update_self] at hses
      obtain rfl := Option.some.inj hses
      exact hses'.frame (.refl _ _)
    · rw [Function.update_of_ne hy] at hses
      exact (h.backed y ses hses).frame (.refl _ _)
  issued := h.issued
  tokens := h.tokens
  done := h.done
  once := h.once

theorem Queue.Fenced.write (h : s.Fenced) {row : Option JobRow} (hses : s.sessions x = some ses)
    (hfree : s.rows.Free x id) (hversion : s.rows.version x id = row)
    (hstatement : Statement s x ses id row ses' row') (hids : s.ids ⊆ ids)
    (hnew : row = none → id ∈ ids) : Queue.Fenced { s.write x ses' id row' with ids := ids } where
  known k hk := by
    have hne : k ≠ id := by
      rintro rfl
      cases row with
      | none => exact hk (hnew rfl)
      | some r => exact hk (hids (h.known_of_version hversion))
    obtain ⟨hcommitted, hheld⟩ := h.known k fun hmem => hk (hids hmem)
    exact ⟨hcommitted, (Rows.held_put_of_ne hne).trans hheld⟩
  evolves := by
    refine h.evolves.put Next.refl Next.trans ?_
    rw [hversion]
    intro r hr
    obtain rfl := Option.mem_def.mp hr
    refine ⟨row', rfl, hstatement.follows fun hid => ?_⟩
    exact absurd (h.known_of_version hversion) hid
  locked k l hl := by
    show Function.update s.sessions x (some ses') l.holder ≠ none
    by_cases hx : l.holder = x
    · simp [hx]
    · have hl : (s.rows.put x id (some row')).held k = some l := hl
      have hk : k ≠ id := by
        rintro rfl
        rw [Rows.held_put_self] at hl
        exact hx (by rw [← Option.some.inj hl])
      rw [Rows.held_put_of_ne hk] at hl
      simpa [hx] using h.locked k l hl
  backed y ses'' hy := by
    have hy : Function.update s.sessions x (some ses') y = some ses'' := hy
    by_cases hne : y = x
    · subst hne
      rw [Function.update_self] at hy
      obtain rfl := Option.some.inj hy
      exact h.statement_backed hses hversion hstatement
    · rw [Function.update_of_ne hne] at hy
      exact (h.backed y ses'' hy).frame (Rows.unmoved_put hfree hne)
  issued := h.issued
  tokens := h.tokens
  done := h.done
  once := h.once

/-- `run_one` commits only what `complete` has matched. -/
theorem handled_role {c : ClaimedJob} (hmay : ses.mayCommit) (hc : c ∈ ses.handled) :
    ses.role = .handler c true := by
  unfold Session.handled at hc
  unfold Session.mayCommit at hmay
  split at hc
  · rename_i own completed hrole
    obtain rfl := List.mem_singleton.mp hc
    rw [hrole] at hmay ⊢
    rw [show completed = true from hmay]
  · cases hc

theorem Queue.Fenced.commit (h : s.Fenced) (hses : s.sessions x = some ses)
    (hmay : ses.mayCommit) : Queue.Fenced { s with
      rows := s.rows.commit x
      sessions := Function.update s.sessions x none
      issued := s.issued ++ ses.claimed
      effects := s.effects ++ ses.handled } where
  known k hk := by
    obtain ⟨hcommitted, hheld⟩ := h.known k hk
    have hversion : s.rows.version x k = none := by
      rw [Rows.version_of_not_held (by simp [hheld]), hcommitted]
    refine ⟨hversion, ?_⟩
    show (s.rows.held k).filter _ = none
    rw [hheld]
    rfl
  evolves := h.evolves.commit
  locked k l hl := by
    obtain ⟨hl, hx⟩ := Rows.held_commit.mp hl
    simpa [hx] using h.locked k l hl
  backed y ses' hy := by
    have hy : Function.update s.sessions x none y = some ses' := hy
    have hne : y ≠ x := by
      rintro rfl
      simp at hy
    rw [Function.update_of_ne hne] at hy
    exact (h.backed y ses' hy).frame (Rows.unmoved_commit hne)
  issued c hc := by
    rcases List.mem_append.mp hc with hc | hc
    · obtain ⟨row, hrow, hle⟩ := h.issued c hc
      obtain ⟨row', hrow', hfollows⟩ :=
        h.evolves.version (t := x) Next.refl row (by simp [hrow] : row ∈ s.rows.committed c.jobId)
      exact ⟨row', hrow', hle.trans hfollows.attempt⟩
    · obtain ⟨row, row', -, hheld, -, -, hclaimed⟩ := (h.backed x ses hses).won c hc
      exact ⟨row', Rows.version_of_held hheld rfl, (congrArg ClaimedJob.attempt hclaimed).ge⟩
  tokens := by
    rw [List.map_append, List.nodup_append]
    refine ⟨h.tokens, ?_, ?_⟩
    · unfold Session.claimed
      split <;> simp
    · intro p hp q hq hpq
      obtain ⟨c, hc, rfl⟩ := List.mem_map.mp hp
      obtain ⟨c', hc', rfl⟩ := List.mem_map.mp hq
      obtain ⟨hid, hattempt⟩ := Prod.mk.inj hpq
      obtain ⟨row, hrow, hle⟩ := h.issued c hc
      obtain ⟨row₀, row', hrow₀, -, hnext, -, hclaimed⟩ := (h.backed x ses hses).won c' hc'
      rw [hid, hrow₀] at hrow
      obtain rfl := Option.some.inj hrow
      have hc'attempt : row'.attempt = c'.attempt := congrArg ClaimedJob.attempt hclaimed
      omega
  done c hc := by
    rcases List.mem_append.mp hc with hc | hc
    · obtain ⟨row, hrow, hdone⟩ := h.done c hc
      obtain ⟨row', hrow', hfollows⟩ :=
        h.evolves.version (t := x) Next.refl row (by simp [hrow] : row ∈ s.rows.committed c.jobId)
      exact ⟨row', hrow', by rw [hfollows.final hdone, hdone]⟩
    · obtain ⟨row, row', -, hheld, -, hdone⟩ := (h.backed x ses hses).completed c
        (handled_role hmay hc)
      exact ⟨row', Rows.version_of_held hheld rfl, hdone⟩
  once := by
    rw [List.map_append, List.nodup_append]
    refine ⟨h.once, ?_, ?_⟩
    · unfold Session.handled
      split <;> simp
    · intro p hp q hq hpq
      obtain ⟨c, hc, rfl⟩ := List.mem_map.mp hp
      obtain ⟨c', hc', rfl⟩ := List.mem_map.mp hq
      obtain ⟨row, hrow, hdone⟩ := h.done c hc
      obtain ⟨row₀, -, hrow₀, -, hnot, -⟩ := (h.backed x ses hses).completed c'
        (handled_role hmay hc')
      rw [hpq, hrow₀] at hrow
      obtain rfl := Option.some.inj hrow
      exact hnot hdone

theorem Queue.Fenced.rollback (h : s.Fenced) : Queue.Fenced { s with
      rows := s.rows.rollback x
      sessions := Function.update s.sessions x none } where
  known k hk := by
    obtain ⟨hcommitted, hheld⟩ := h.known k hk
    refine ⟨hcommitted, ?_⟩
    show (s.rows.held k).filter _ = none
    rw [hheld]
    rfl
  evolves := h.evolves.rollback
  locked k l hl := by
    obtain ⟨hl, hx⟩ := Rows.held_rollback.mp hl
    simpa [hx] using h.locked k l hl
  backed y ses' hy := by
    have hy : Function.update s.sessions x none y = some ses' := hy
    have hne : y ≠ x := by
      rintro rfl
      simp at hy
    rw [Function.update_of_ne hne] at hy
    exact (h.backed y ses' hy).frame (Rows.unmoved_rollback hne)
  issued := h.issued
  tokens := h.tokens
  done := h.done
  once := h.once

end

theorem fenced_start (now : Time) : (Queue.start now).Fenced where
  known _ _ := ⟨rfl, rfl⟩
  evolves := Rows.evolves_settled _
  locked _ _ h := by cases h
  backed _ _ h := by cases h
  issued _ h := by cases h
  tokens := List.nodup_nil
  done _ h := by cases h
  once := List.nodup_nil

/-- Every action keeps the invariant. -/
theorem Step.fenced {s s' : Queue} {a : Action} (h : s.Fenced) (hstep : Step s a s') :
    s'.Fenced := by
  cases hstep.effect fun k hk => (h.known k hk).2 with
  | tick => exact h.tick _
  | raised => exact h
  | opened hnone hrole =>
    refine h.goOn (backed_fresh hrole fun k l hl hx => h.locked k l hl ?_)
    rw [hx, hnone]
  | looped hses hrole =>
    have hback := h.backed _ _ hses
    refine h.goOn ⟨fun c hc => ?_, hback.used, fun _ hrole' => ?_, ?_, fun htakes => ?_⟩
    · cases hc
    · cases hrole'
    · exact fun _ _ _ => hback.looking _ _ hrole
    · simp [Session.takes] at htakes
  | wrote hses hfree hversion hstatement hids hnew =>
    exact h.write hses hfree hversion hstatement hids hnew
  | committed hses hmay => exact h.commit hses hmay
  | rolledBack => exact h.rollback

/-! ### The results -/

section
variable {s s' : Queue} {a : Action} {x : TxId}

/-- No action deletes a job, resets its attempt, or changes it after it has succeeded. -/
theorem Step.row_follows (h : s.Fenced) (hstep : Step s a s') {id : JobId} {row : JobRow}
    (hrow : s.rows.committed id = some row) :
    ∃ row', s'.rows.committed id = some row' ∧ Follows row row' := by
  cases hstep.effect fun k hk => (h.known k hk).2 with
  | @committed x ses _ _ =>
    obtain ⟨row', hrow', hfollows⟩ :=
      h.evolves.version (t := x) Next.refl row (by simp [hrow] : row ∈ s.rows.committed id)
    exact ⟨row', hrow', hfollows⟩
  | tick | raised | opened | looped | wrote | rolledBack => exact ⟨row, hrow, .refl row⟩

/-- A lease that is committed has raised the attempt of its job. -/
theorem Step.lease_raises (h : s.Fenced) {ses : Session} (hstep : Step s (.commit x) s')
    (hses : s.sessions x = some ses) {c : ClaimedJob} (hc : c ∈ ses.claimed) :
    ∃ row row', s.rows.committed c.jobId = some row ∧ s'.rows.committed c.jobId = some row' ∧
      row.attempt < row'.attempt ∧ row'.attempt = c.attempt := by
  obtain ⟨row, row', hrow, hheld, hnext, -, hclaimed⟩ := (h.backed x ses hses).won c hc
  have hcommit : s.commit x = some s' := hstep
  unfold Queue.commit at hcommit
  obtain ⟨_, -, hcommit⟩ := Option.bind_eq_some_iff.mp hcommit
  split at hcommit
  · obtain rfl := Option.some.inj hcommit
    refine ⟨row, row', hrow, Rows.version_of_held hheld rfl, by omega, ?_⟩
    exact congrArg ClaimedJob.attempt hclaimed
  · cases hcommit

/-- A statement under a lease whose attempt is no longer that of the row changes nothing. -/
theorem fenced_stale (h : s.Fenced) {completes : Bool} {set : Time → JobRow → JobRow}
    (hfenced : s.fenced x job completes set = some s')
    (hstale : ∀ row, s.rows.committed job.jobId = some row → row.attempt ≠ job.attempt) :
    s' = s := by
  unfold Queue.fenced at hfenced
  obtain ⟨ses, hses, hfenced⟩ := Option.bind_eq_some_iff.mp hfenced
  split at hfenced
  · rename_i hc
    obtain ⟨row₀, hrow₀, -⟩ := h.issued job hc.2
    split at hfenced
    · rename_i row' hmatch
      obtain ⟨row, hrow, hupdate⟩ := Option.bind_eq_some_iff.mp hmatch
      obtain ⟨-, hattempt, -⟩ := fencedUpdate_eq_some hupdate
      have hsame := (h.backed x ses hses).version_attempt hc.1 hrow row₀ hrow₀
      exact absurd (hsame.symm.trans hattempt) (hstale row₀ hrow₀)
    · exact (Option.some.inj hfenced).symm
  · cases hfenced

theorem Step.stale (h : s.Fenced) (hstep : Step s a s') (htoken : a.token = some job)
    (hstale : ∀ row, s.rows.committed job.jobId = some row → row.attempt ≠ job.attempt) :
    s' = s := by
  cases a with
  | renewLease x c secs =>
    obtain rfl : c = job := Option.some.inj htoken
    have hstep : s.fenced x c false (fun now => setRenewed now secs) = some s' := hstep
    exact fenced_stale h hstep hstale
  | complete x c =>
    obtain rfl : c = job := Option.some.inj htoken
    have hstep : s.fenced x c true (fun _ => setCompleted) = some s' := hstep
    exact fenced_stale h hstep hstale
  | fail x c kind reason delay =>
    obtain rfl : c = job := Option.some.inj htoken
    have hstep : s.fenced x c false (fun now => setFailed now c kind reason delay) = some s' := hstep
    exact fenced_stale h hstep hstale
  | _ => cases htoken

/-- Job fencing, after any run of the queue from an empty table.

The attempt of a job never falls, and a committed lease raises it; so a lease that was handed to a
worker is identified by the job and the attempt. A statement under a lease of another attempt
changes nothing, and what was written under a lease is committed while its attempt is still that of
the row. A job that has succeeded is final. And the handler transactions that have committed, with
their completion, are of different jobs. -/
theorem jobs_fenced {now : Time} {as : List Action} {s : Queue}
    (hrun : Steps Step (.start now) as s) :
    (∀ a s', Step s a s' → ∀ id row, s.rows.committed id = some row →
      ∃ row', s'.rows.committed id = some row' ∧ row.attempt ≤ row'.attempt ∧
        (row.state = .SUCCEEDED → row' = row)) ∧
    (∀ x ses s', s.sessions x = some ses → Step s (.commit x) s' →
      (∀ c ∈ ses.claimed, ∃ row row', s.rows.committed c.jobId = some row ∧
        s'.rows.committed c.jobId = some row' ∧ row.attempt < row'.attempt ∧
        row'.attempt = c.attempt) ∧
      ∀ c ∈ ses.used, ∃ row, s.rows.committed c.jobId = some row ∧ row.attempt = c.attempt) ∧
    (s.issued.map fun c => (c.jobId, c.attempt)).Nodup ∧
    (∀ a c s', a.token = some c → Step s a s' →
      (∀ row, s.rows.committed c.jobId = some row → row.attempt ≠ c.attempt) → s' = s) ∧
    (∀ c ∈ s.effects, ∃ row, s.rows.committed c.jobId = some row ∧ row.state = .SUCCEEDED) ∧
    (s.effects.map ClaimedJob.jobId).Nodup := by
  have h : s.Fenced := hrun.invariant (fun _ _ _ h hs => hs.fenced h) (fenced_start now)
  refine ⟨fun a s' hs id row hrow => ?_, fun x ses s' hses hs => ⟨fun c hc => ?_, fun c hc => ?_⟩,
    h.tokens, fun a c s' htoken hs hstale => hs.stale h htoken hstale, h.done, h.once⟩
  · obtain ⟨row', hrow', hfollows⟩ := hs.row_follows h hrow
    exact ⟨row', hrow', hfollows.attempt, hfollows.final⟩
  · exact hs.lease_raises h hses hc
  · obtain ⟨row, _, hrow, -, hattempt, -⟩ := (h.backed x ses hses).used c hc
    exact ⟨row, hrow, hattempt⟩

end

/-! ### A sample run -/

namespace Sample

/-- The only job of the sample: it may be attempted twice. -/
def enqueueOne : List Action :=
  [.begin_ 0, .enqueue 0 7 "K" "k:1" "x" 2 none, .commit 0]

/-- A worker named "w" claims in the transaction `x`. -/
def claimIn (x : TxId) : List Action :=
  [.claim x ⟨"w", ["K"], 60, 8, none⟩, .select x, .lease x, .commit x]

/-- The lease of the attempt `n`, taken `at_`. -/
def lease (n : Nat) (at_ : Time) : ClaimedJob :=
  ⟨7, "K", "x", "k:1", n, 2, "w", some (at_ + seconds 60)⟩

/-- Two workers of one name: the first is in its handler while its lease runs out, the second
claims the job again and finishes it, and then the first comes back. -/
def twoWorkers : List Action :=
  enqueueOne ++ claimIn 1 ++ [.runOne 2 (lease 1 0), .tick (seconds 61)] ++ claimIn 3 ++
    [.runOne 4 (lease 2 (seconds 61)), .complete 4 (lease 2 (seconds 61)), .commit 4,
      .complete 2 (lease 1 0)]

end Sample

/-- The run of two workers of one name: both leases were handed out, and one handler has
committed. -/
theorem jobs_fenced_sample :
    ∃ s, Steps Step (.start 0) Sample.twoWorkers s ∧ s.issued.length = 2 ∧
      s.effects = [Sample.lease 2 (seconds 61)] ∧
      (s.issued.map fun c => (c.jobId, c.attempt)).Nodup ∧
      (s.effects.map ClaimedJob.jobId).Nodup ∧ ¬ ∃ s', Step s (.commit 2) s' := by
  obtain ⟨s, hrun, hview⟩ : ∃ s, (Queue.start 0).run Sample.twoWorkers = some s ∧
      (s.issued.length, s.effects, (s.step (.commit 2)).isNone) =
        (2, [Sample.lease 2 (seconds 61)], true) :=
    Option.map_eq_some_iff.mp (by decide +kernel)
  simp only [Prod.mk.injEq] at hview
  obtain ⟨hissued, heffects, hnone⟩ := hview
  have hsteps := Queue.run_steps hrun
  obtain ⟨-, -, htokens, -, -, honce⟩ := jobs_fenced hsteps
  refine ⟨s, hsteps, hissued, heffects, htokens, honce, ?_⟩
  rintro ⟨s', hs'⟩
  rw [Step, Option.isNone_iff_eq_none.mp hnone] at hs'
  cases hs'

end Rackline.Jobs
