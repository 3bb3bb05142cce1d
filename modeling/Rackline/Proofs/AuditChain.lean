import Rackline.AuditLog

/-!
# `Rackline.Proofs.AuditChain`: when the audit log is one chain

An append links a row to the newest row that its transaction saw. The committed rows are one chain
as long as no other transaction has committed a row between that read and the commit. Otherwise two
rows carry the same `prev_hash`, and the log has a fork (`linear_unique`).

`Links` is the chain in the order of the rows. `Session.Tracks` is what an open transaction keeps
next to the committed rows: its rows continue the chain for as long as nobody else commits one.
-/

set_option autoImplicit false

namespace Rackline.Audit

open Transition

variable {Hash : Type}

/-! ### Chains -/

section
variable {rows : List (AuditRow Hash)} {r q : AuditRow Hash}

/-- Each row carries the hash of the newest row before it. -/
def Links (rows : List (AuditRow Hash)) : Prop :=
  ∀ pre r post, rows = pre ++ r :: post → r.prevHash = tailHash pre

theorem Links.snoc (h : Links rows) (hr : r.prevHash = tailHash rows) : Links (rows ++ [r]) := by
  intro pre q post heq
  rcases List.eq_nil_or_concat post with rfl | ⟨post', last, rfl⟩
  · obtain ⟨rfl, hq⟩ := List.append_inj' heq rfl
    obtain rfl := List.singleton_injective hq
    exact hr
  · rw [List.concat_eq_append, ← List.cons_append, ← List.append_assoc] at heq
    exact h pre q post' (List.append_inj' heq rfl).1

/-- The ids of the rows are in increasing order. -/
def Ascending (rows : List (AuditRow Hash)) : Prop := rows.Pairwise fun p q => p.id < q.id

/-- Two entries of one hash have one previous hash. -/
def CollisionFree (H : EntryHash Hash) : Prop :=
  ∀ e prev e' prev', Entry.hash H e prev = Entry.hash H e' prev' → prev = prev'

/-- The rows carry their hashes. -/
def Hashed (H : EntryHash Hash) (rows : List (AuditRow Hash)) : Prop :=
  ∀ r ∈ rows, r.entryHash = r.toEntry.hash H r.prevHash

end

/-! ### What the open transactions keep -/

/-- An open transaction, next to the committed rows. -/
structure Session.Tracks (H : EntryHash Hash) (ses : Session Hash) (rows : List (AuditRow Hash))
    (seq : Nat) : Prop where
  ascending : Ascending ses.own
  drawn : ∀ r ∈ ses.own, r.id ≤ seq
  hashed : Hashed H ses.own
  /-- Its ids are not those of committed rows. -/
  fresh : ∀ r ∈ ses.own, ∀ q ∈ rows, q.id ≠ r.id
  untouched : ses.base = none → ses.own = [] ∧ ses.prev = none
  started : ses.base ≠ none → ses.own = [] → ses.prev ≠ none
  base_le : ∀ n, ses.base = some n → n ≤ rows.length
  /-- Its first row is linked to the tail it read first. -/
  first : ∀ n, ses.base = some n → ∀ r rest, ses.own = r :: rest →
    r.prevHash = tailHash (rows.take n)
  pending : ∀ n, ses.base = some n → ses.own = [] → ∀ h, ses.prev = some h →
    h = tailHash (rows.take n)
  /-- While no row has been committed since, its rows continue the chain. -/
  alone : ses.base = some rows.length → Links (rows ++ ses.own) ∧
    (∀ r ∈ ses.own, ∀ q ∈ rows, q.id < r.id) ∧
    ∀ h, ses.prev = some h → h = tailHash (rows ++ ses.own)

/-- The invariant of a log that is one chain. -/
structure AuditLog.Chained (H : EntryHash Hash) (s : AuditLog Hash) : Prop where
  ascending : Ascending s.rows
  links : Links s.rows
  hashed : Hashed H s.rows
  drawn : ∀ r ∈ s.rows, r.id ≤ s.seq
  tracks : ∀ x ses, s.sessions x = some ses → ses.Tracks H s.rows s.seq
  apart : ∀ x y sx sy, x ≠ y → s.sessions x = some sx → s.sessions y = some sy →
    ∀ r ∈ sx.own, ∀ q ∈ sy.own, r.id ≠ q.id

section
variable {H : EntryHash Hash} {s s' : AuditLog Hash} {x : TxId} {ses : Session Hash}
  {rows : List (AuditRow Hash)} {seq seq' : Nat}

theorem Session.Tracks.mono (h : ses.Tracks H rows seq) (hle : seq ≤ seq') :
    ses.Tracks H rows seq' :=
  { h with drawn := fun r hr => (h.drawn r hr).trans hle }

/-- A transaction that begins has written nothing. -/
theorem tracks_fresh : (Session.mk [] none none).Tracks H rows seq where
  ascending := List.Pairwise.nil
  drawn _ h := by cases h
  hashed _ h := by cases h
  fresh _ h := by cases h
  untouched _ := ⟨rfl, rfl⟩
  started h := absurd rfl h
  base_le _ h := by cases h
  first _ h := by cases h
  pending _ h := by cases h
  alone h := by cases h

/-- After the `SELECT`, the transaction knows the tail. -/
theorem Session.Tracks.readTail {own : List (AuditRow Hash)} {base : Option Nat}
    (h : (Session.mk own none base).Tracks H rows seq) (hlinks : Links rows) :
    (Session.mk own (some (tailHash (rows ++ own))) (some (base.getD rows.length))).Tracks H rows
      seq := by
  have hsome : ∀ {n}, base.getD rows.length = n → base = none ∧ own = [] ∧ n = rows.length ∨
      base = some n := by
    intro n hn
    cases base with
    | none => exact .inl ⟨rfl, (h.untouched rfl).1, hn.symm⟩
    | some m => exact .inr (congrArg some hn)
  refine ⟨h.ascending, h.drawn, h.hashed, h.fresh, nofun, nofun, ?_, ?_, ?_, ?_⟩
  · intro n hn
    rcases hsome (Option.some.inj hn) with ⟨-, -, rfl⟩ | hbase
    · exact le_rfl
    · exact h.base_le n hbase
  · intro n hn r rest hown
    rcases hsome (Option.some.inj hn) with ⟨-, hnil, -⟩ | hbase
    · rw [show own = r :: rest from hown] at hnil
      cases hnil
    · exact h.first n hbase r rest hown
  · intro n hn hnil t ht
    obtain rfl : own = [] := hnil
    obtain rfl := Option.some.inj ht
    rcases hsome (Option.some.inj hn) with ⟨-, -, rfl⟩ | hbase
    · rw [List.take_length, List.append_nil]
    · -- A read is followed by its insert, so this is the first.
      exact absurd rfl (h.started (by simp [hbase]) rfl)
  · intro hn
    rcases hsome (Option.some.inj hn) with ⟨-, hnil, -⟩ | hbase
    · obtain rfl := hnil
      refine ⟨by rwa [List.append_nil], ?_, fun t ht => (Option.some.inj ht).symm⟩
      exact fun _ hr => absurd hr List.not_mem_nil
    · obtain ⟨hlinks', hids, -⟩ := h.alone hbase
      exact ⟨hlinks', hids, fun t ht => (Option.some.inj ht).symm⟩

/-- The `INSERT` continues the rows of the transaction. -/
theorem Session.Tracks.insert {own : List (AuditRow Hash)} {prev : Option Hash} {base : Option Nat}
    (h : (Session.mk own (some prev) base).Tracks H rows seq) (hdrawn : ∀ r ∈ rows, r.id ≤ seq)
    (e : Entry) {row : AuditRow Hash}
    (hrow : row = { e with id := seq + 1, prevHash := prev, entryHash := e.hash H prev }) :
    (Session.mk (own ++ [row]) none base).Tracks H rows (seq + 1) := by
  have hbase : ∀ n, base = some n → base ≠ none := fun n hn => by simp [hn]
  have hid : row.id = seq + 1 := by rw [hrow]
  have hprev : row.prevHash = prev := by rw [hrow]
  refine ⟨?_, ?_, ?_, ?_, fun hnone => ?_, ?_, h.base_le, ?_, ?_, ?_⟩
  · refine List.pairwise_append.mpr ⟨h.ascending, List.pairwise_singleton _ _, ?_⟩
    intro q hq r hr
    obtain rfl := List.mem_singleton.mp hr
    have := h.drawn q hq
    omega
  · intro r hr
    rcases List.mem_append.mp hr with hr | hr
    · exact (h.drawn r hr).trans (Nat.le_succ seq)
    · obtain rfl := List.mem_singleton.mp hr
      exact hid.le
  · intro r hr
    rcases List.mem_append.mp hr with hr | hr
    · exact h.hashed r hr
    · obtain rfl := List.mem_singleton.mp hr
      rw [hrow]
  · intro r hr q hq
    rcases List.mem_append.mp hr with hr | hr
    · exact h.fresh r hr q hq
    · obtain rfl := List.mem_singleton.mp hr
      have := hdrawn q hq
      omega
  · cases (h.untouched hnone).2
  · intro _ hnil
    simp at hnil
  · intro n hn r rest hcut
    cases own with
    | nil =>
      obtain ⟨rfl, -⟩ := List.cons.inj hcut
      rw [hprev]
      exact h.pending n hn rfl prev rfl
    | cons first own =>
      obtain ⟨rfl, -⟩ := List.cons.inj hcut
      exact h.first n hn first own rfl
  · intro n _ hnil
    simp at hnil
  · intro hn
    obtain ⟨hlinks, hids, htail⟩ := h.alone hn
    refine ⟨?_, ?_, nofun⟩
    · show Links (rows ++ (own ++ [row]))
      rw [← List.append_assoc]
      exact hlinks.snoc (hprev.trans (htail prev rfl))
    · intro r hr q hq
      rcases List.mem_append.mp hr with hr | hr
      · exact hids r hr q hq
      · obtain rfl := List.mem_singleton.mp hr
        have := hdrawn q hq
        omega

/-- A commit of another transaction. -/
theorem Session.Tracks.extend {more : List (AuditRow Hash)} (h : ses.Tracks H rows seq)
    (hfresh : ∀ r ∈ ses.own, ∀ q ∈ more, q.id ≠ r.id) : ses.Tracks H (rows ++ more) seq := by
  have htake : ∀ n, ses.base = some n → (rows ++ more).take n = rows.take n := fun n hn =>
    List.take_append_of_le_length (h.base_le n hn)
  refine ⟨h.ascending, h.drawn, h.hashed, ?_, h.untouched, h.started, ?_, ?_, ?_, ?_⟩
  · intro r hr q hq
    rcases List.mem_append.mp hq with hq | hq
    · exact h.fresh r hr q hq
    · exact hfresh r hr q hq
  · intro n hn
    rw [List.length_append]
    exact (h.base_le n hn).trans (Nat.le_add_right _ _)
  · intro n hn
    rw [htake n hn]
    exact h.first n hn
  · intro n hn
    rw [htake n hn]
    exact h.pending n hn
  · intro hn
    have hle := h.base_le _ hn
    rw [List.length_append] at hle
    obtain rfl : more = [] := List.length_eq_zero_iff.mp (by omega)
    rw [List.append_nil] at hn ⊢
    exact h.alone hn

/-- `x` goes on: its rows are the old ones, and new ones with fresh ids. -/
theorem AuditLog.Chained.goOn (h : s.Chained H) (hle : s.seq ≤ seq')
    (htracks : ses.Tracks H s.rows seq')
    (hown : ∀ r ∈ ses.own, (∃ old, s.sessions x = some old ∧ r ∈ old.own) ∨ s.seq < r.id) :
    AuditLog.Chained H { s.goOn x ses with seq := seq' } where
  ascending := h.ascending
  links := h.links
  hashed := h.hashed
  drawn r hr := (h.drawn r hr).trans hle
  tracks y ses' hy := by
    have hy : Function.update s.sessions x (some ses) y = some ses' := hy
    by_cases hyx : y = x
    · subst hyx
      rw [Function.update_self] at hy
      obtain rfl := Option.some.inj hy
      exact htracks
    · rw [Function.update_of_ne hyx] at hy
      exact (h.tracks y ses' hy).mono hle
  apart := by
    -- The rows of `x` against those of another transaction.
    have hsplit : ∀ y sy, y ≠ x → s.sessions y = some sy → ∀ r ∈ ses.own, ∀ q ∈ sy.own,
        r.id ≠ q.id := by
      intro y sy hy hsy r hr q hq
      rcases hown r hr with ⟨old, hold, hmem⟩ | hnew
      · exact h.apart x y old sy hy.symm hold hsy r hmem q hq
      · have := (h.tracks y sy hsy).drawn q hq
        omega
    intro y z sy sz hyz hy' hz' r hr q hq
    have hsy : Function.update s.sessions x (some ses) y = some sy := hy'
    have hsz : Function.update s.sessions x (some ses) z = some sz := hz'
    by_cases hy : y = x
    · rw [hy, Function.update_self] at hsy
      rw [Function.update_of_ne fun hz => hyz (hy.trans hz.symm)] at hsz
      obtain rfl := Option.some.inj hsy
      exact hsplit z sz (fun hz => hyz (hy.trans hz.symm)) hsz r hr q hq
    · rw [Function.update_of_ne hy] at hsy
      by_cases hz : z = x
      · rw [hz, Function.update_self] at hsz
        obtain rfl := Option.some.inj hsz
        exact (hsplit y sy hy hsy q hq r hr).symm
      · rw [Function.update_of_ne hz] at hsz
        exact h.apart y z sy sz hyz hsy hsz r hr q hq

/-- `x` ends, and leaves `more` rows behind. -/
theorem AuditLog.Chained.close {more : List (AuditRow Hash)} (h : s.Chained H)
    (hascending : Ascending (s.rows ++ more)) (hlinks : Links (s.rows ++ more))
    (hmore : ∀ r ∈ more, ∃ ses, s.sessions x = some ses ∧ r ∈ ses.own) :
    AuditLog.Chained H { s with
      rows := s.rows ++ more
      sessions := Function.update s.sessions x none } where
  ascending := hascending
  links := hlinks
  hashed r hr := by
    rcases List.mem_append.mp hr with hr | hr
    · exact h.hashed r hr
    · obtain ⟨ses, hses, hmem⟩ := hmore r hr
      exact (h.tracks x ses hses).hashed r hmem
  drawn r hr := by
    rcases List.mem_append.mp hr with hr | hr
    · exact h.drawn r hr
    · obtain ⟨ses, hses, hmem⟩ := hmore r hr
      exact (h.tracks x ses hses).drawn r hmem
  tracks y ses hy := by
    have hy : Function.update s.sessions x none y = some ses := hy
    have hyx : y ≠ x := by
      rintro rfl
      simp at hy
    rw [Function.update_of_ne hyx] at hy
    refine (h.tracks y ses hy).extend fun r hr q hq => ?_
    obtain ⟨own, hown, hmem⟩ := hmore q hq
    exact h.apart x y own ses hyx.symm hown hy q hmem r hr
  apart y z sy sz hyz hsy hsz := by
    have hsy : Function.update s.sessions x none y = some sy := hsy
    have hsz : Function.update s.sessions x none z = some sz := hsz
    have hy : y ≠ x := by
      rintro rfl
      simp at hsy
    have hz : z ≠ x := by
      rintro rfl
      simp at hsz
    rw [Function.update_of_ne hy] at hsy
    rw [Function.update_of_ne hz] at hsz
    exact h.apart y z sy sz hyz hsy hsz

/-! ### The steps of a run -/

/-- Only a commit changes the committed rows. -/
theorem Step.quiet {a : Action} (h : s.Chained H) (hstep : Step H s a s')
    (hcommit : ∀ x, a ≠ .commit x) : s'.Chained H ∧ s'.rows = s.rows := by
  cases a with
  | begin_ x =>
    have hstep : s.open_ x = some s' := hstep
    unfold AuditLog.open_ at hstep
    split at hstep
    · obtain rfl := Option.some.inj hstep
      exact ⟨h.goOn le_rfl tracks_fresh fun _ hr => absurd hr List.not_mem_nil, rfl⟩
    · cases hstep
  | readTail x =>
    have hstep : s.readTail x = some s' := hstep
    unfold AuditLog.readTail at hstep
    split at hstep
    · rename_i own base hses
      obtain rfl := Option.some.inj hstep
      exact ⟨h.goOn le_rfl ((h.tracks x _ hses).readTail h.links) fun r hr => .inl ⟨_, hses, hr⟩, rfl⟩
    · cases hstep
  | insert x e =>
    have hstep : s.insert H x e = some s' := hstep
    unfold AuditLog.insert at hstep
    split at hstep
    · rename_i own prev base hses
      obtain rfl := Option.some.inj hstep
      refine ⟨h.goOn (Nat.le_succ s.seq) ((h.tracks x _ hses).insert h.drawn e rfl) ?_, rfl⟩
      intro r hr
      rcases List.mem_append.mp hr with hr | hr
      · exact .inl ⟨_, hses, hr⟩
      · obtain rfl := List.mem_singleton.mp hr
        exact .inr (Nat.lt_succ_self s.seq)
    · cases hstep
  | commit x => exact absurd rfl (hcommit x)
  | rollback x =>
    have hstep : s.rollback x = some s' := hstep
    unfold AuditLog.rollback at hstep
    split at hstep
    · obtain rfl := Option.some.inj hstep
      have hclose := h.close (x := x) (by rw [List.append_nil]; exact h.ascending)
        (by rw [List.append_nil]; exact h.links) fun _ hr => absurd hr List.not_mem_nil
      rw [List.append_nil] at hclose
      exact ⟨hclose, rfl⟩
    · cases hstep

end

namespace Sample

/-- A hash that counts the entries before. -/
def count : EntryHash Nat := fun prev _ _ _ _ => (prev.map (· + 1)).getD 0

def entry (id : String) : Entry := ⟨"ops", "operator", "job.resume", "jobs", id, none, none, none⟩

end Sample

end Rackline.Audit
