import Rackline.Collector
import Mathlib.Data.List.Nodup

/-!
# `Rackline.Proofs.Collection`: what a collector has stored

A page token stands for what is still to come of a window. `Paging` says so: of the items that the
window lists, those that are not stored are on the pages from the token on, and all pages before it
were committed. The invariant `Inv` of a cursor says that its token pages the window of the last
commit under its name, and that every call pages its own window.

A call that resumes a token combines it with a start of its own. `Inv` therefore survives a step
whose call starts its window where the last commit did (`Action.Resumes`). A poll always does, since
the high water and the overlap of its cursor have not moved (`collection_has_no_gaps`). A call of
`collect_window` does when it has the window of the call that was interrupted
(`collect_window_complete`), and with another window it returns without its items
(`collect_window_skips`).
-/

set_option autoImplicit false

namespace Rackline.Ingestion

open Transition

variable {Item Payload Token : Type}

/-! ### One step -/

section
variable [DecidableEq Payload]

theorem storeObservation_cursors (db : Db Payload Token) (stream : Stream) (obs : Payload) :
    (db.storeObservation stream obs).cursors = db.cursors := by
  unfold Db.storeObservation Db.emit
  split
  · rfl
  · split <;> rfl

theorem storePage_cursors (stream : Stream) : ∀ (items : List Payload) (db : Db Payload Token),
    (db.storePage stream items).cursors = db.cursors := by
  intro items
  induction items with
  | nil => intro db; rfl
  | cons obs items ih => intro db; exact (ih _).trans (storeObservation_cursors db stream obs)

/-- A stored payload stays, and the new one is there. -/
theorem storeObservation_mem (db : Db Payload Token) (stream : Stream) (obs p : Payload) :
    p ∈ (db.storeObservation stream obs).rows.map (·.payload) ↔
      p = obs ∨ p ∈ db.rows.map (·.payload) := by
  unfold Db.storeObservation
  split
  · rename_i hmem
    constructor
    · exact .inr
    · rintro (rfl | h)
      · exact hmem
      · exact h
  · have hrows : (Db.emit { db with rows := db.rows ++ [⟨obs, stream⟩] } obs).rows =
        db.rows ++ [⟨obs, stream⟩] := by
      unfold Db.emit
      split <;> rfl
    rw [hrows, List.map_append, List.mem_append]
    show _ ∨ p ∈ [obs] ↔ _
    rw [List.mem_singleton, or_comm]

theorem storePage_mem (stream : Stream) (p : Payload) : ∀ (items : List Payload)
    (db : Db Payload Token), p ∈ (db.storePage stream items).rows.map (·.payload) ↔
      p ∈ items ∨ p ∈ db.rows.map (·.payload) := by
  intro items
  induction items with
  | nil =>
    intro db
    show p ∈ db.rows.map (·.payload) ↔ _
    simp
  | cons obs items ih =>
    intro db
    have hrest := ih (db.storeObservation stream obs)
    show p ∈ ((db.storeObservation stream obs).storePage stream items).rows.map (·.payload) ↔ _
    rw [hrest, storeObservation_mem, List.mem_cons]
    exact ⟨fun h => h.elim (fun h => .inl (.inr h)) (Or.imp .inl id),
      fun h => h.elim (fun h => h.elim (fun h => .inr (.inl h)) .inl) (fun h => .inr (.inr h))⟩

end

/-- The item has a row. -/
def Stored (P : Provider Item Payload Token) (s : State Payload Token) (i : Item) : Prop :=
  ∃ obs ∈ s.db.rows.map (·.payload), P.item obs = i

variable (P : Provider Item Payload Token) [DecidableEq Payload]

/-- What one step can do. A crash and a conflict only end the call. -/
inductive Effect (s : State Payload Token) : Action Payload Token → State Payload Token → Prop
  | opened {k : Nat} {cfg : IngestionConfig} {r : Request} {now : Time} {st : CursorState Token}
      {db : Db Payload Token} {initialStart : StreamName → Option Time} :
      s.calls k = none →
      ((s.db.cursors r.name = some st ∧ db = s.db ∧ initialStart = s.initialStart) ∨
        ∃ start overlap, s.db.cursors r.name = none ∧ r.opening cfg = (some start, overlap) ∧
          st = ⟨start, none, none, overlap⟩ ∧ db = s.db.save r.name st ∧
          initialStart = Function.update s.initialStart r.name (some start)) →
      Effect s (.start k cfg r now) ({ s with
        db := db
        initialStart := initialStart }.goOn k r (plan cfg r st now))
  | fetched {k : Nat} {r : Request} {st : CursorState Token} {window : Window}
      {token : Option Token} {page : Page Payload Token} :
      s.calls k = some (r, .fetching st window token) →
      P.serves r.name.stream window token page →
      Effect s (.fetch k page) (s.goOn k r (.committing st window token page))
  | committed {k : Nat} {r : Request} {st : CursorState Token} {window : Window}
      {token : Option Token} {page : Page Payload Token} :
      s.calls k = some (r, .committing st window token page) → s.db.cursors r.name = some st →
      Effect s (.commit k) ({ s with
        db := (s.db.storePage r.name.stream page.items).save r.name (State.nextState st window page)
        history := ⟨r.name, window, token, page⟩ :: s.history }.goOn k r
          (if page.next.hasMore then
            .fetching (State.nextState st window page) window page.next.token
          else .returning (some window)))
  | finished {k : Nat} {r : Request} {window : Option Window} :
      s.calls k = some (r, .returning window) →
      Effect s (.finish k) (s.goOn k r (.returned window))
  | ended {a : Action Payload Token} {k : Nat} {r : Request} {progress : Progress Payload Token}
      {gaps : List (StreamName × Window)} : progress = .crashed ∨ progress = .gap →
      Effect s a ({ s with db := { s.db with gaps := gaps } }.goOn k r progress)

omit [DecidableEq Payload] in
theorem openCursor_cases {s : State Payload Token} {cfg : IngestionConfig} {r : Request}
    {st : CursorState Token} {db : Db Payload Token}
    (h : s.db.openCursor r.name (r.opening cfg).1 (r.opening cfg).2 = some (st, db)) :
    (s.db.cursors r.name = some st ∧ db = s.db) ∨
      ∃ start overlap, s.db.cursors r.name = none ∧ r.opening cfg = (some start, overlap) ∧
        st = ⟨start, none, none, overlap⟩ ∧ db = s.db.save r.name st := by
  unfold Db.openCursor at h
  split at h
  · rename_i st' hst
    rw [Option.some.injEq, Prod.mk.injEq] at h
    obtain ⟨rfl, rfl⟩ := h
    exact .inl ⟨hst, rfl⟩
  · rename_i hnone
    obtain ⟨start, hstart, h⟩ := Option.bind_eq_some_iff.mp h
    obtain ⟨rfl, rfl⟩ := Prod.mk.injEq _ _ _ _ ▸ (Option.some.inj h)
    exact .inr ⟨start, (r.opening cfg).2, hnone, by rw [← hstart], rfl, rfl⟩

theorem Effect.crashed {s : State Payload Token} {a : Action Payload Token} {k : Nat} {r : Request} :
    Effect P s a (s.goOn k r .crashed) := by
  have h : Effect P s a ({ s with db := { s.db with gaps := s.db.gaps } }.goOn k r .crashed) :=
    .ended (.inl rfl)
  exact h

theorem step_effect [DecidableEq Token] {s s' : State Payload Token} {a : Action Payload Token} (h : P.Step s a s') :
    Effect P s a s' := by
  obtain ⟨hserved, hstep⟩ := h
  unfold State.step at hstep
  cases a with
  | start k cfg r now =>
    dsimp only at hstep
    split at hstep
    · rename_i hnone
      obtain rfl := Option.some.inj hstep
      have hk : s.calls k = none := Option.isNone_iff_eq_none.mp hnone
      unfold State.start
      dsimp only
      split
      · exact .crashed P
      · rename_i st db hopen
        obtain ⟨hst, rfl⟩ | ⟨start, overlap, hst, hopening, hfresh, hdb⟩ := openCursor_cases hopen
        · rw [if_neg (by rw [hst]; simp)]
          exact .opened hk (.inl ⟨hst, rfl, rfl⟩)
        · rw [if_pos hst, hopening]
          exact .opened hk (.inr ⟨start, overlap, hst, hopening, hfresh, hdb, rfl⟩)
    · cases hstep
  | fetch k page =>
    dsimp only at hstep
    split at hstep
    · rename_i r st window token hk
      obtain rfl := Option.some.inj hstep
      unfold Provider.Served at hserved
      dsimp only at hserved
      rw [hk] at hserved
      exact .fetched hk hserved
    · cases hstep
  | expire k =>
    dsimp only at hstep
    split at hstep
    · obtain rfl := Option.some.inj hstep
      exact .ended (.inr rfl)
    · cases hstep
  | commit k =>
    dsimp only at hstep
    split at hstep
    · rename_i r st window token page hk
      obtain rfl := Option.some.inj hstep
      unfold State.commit
      split
      · rename_i hcursor
        exact .committed hk hcursor
      · exact .crashed P
    · cases hstep
  | finish k =>
    dsimp only at hstep
    split at hstep
    · rename_i r window hk
      obtain rfl := Option.some.inj hstep
      exact .finished hk
    · cases hstep
  | crash k =>
    dsimp only at hstep
    split at hstep
    · obtain rfl := Option.some.inj hstep
      exact .crashed P
    · obtain rfl := Option.some.inj hstep
      exact .crashed P
    · obtain rfl := Option.some.inj hstep
      exact .crashed P
    · cases hstep

/-! ### The pages of a window -/

/-- The token is reached from the first page of the window through committed pages. -/
inductive Paged (history : List (Commit Payload Token)) (name : StreamName) (window : Window) :
    Option Token → Prop
  | first : Paged history name window none
  | next {token : Option Token} {page : Page Payload Token} :
      Paged history name window token → ⟨name, window, token, page⟩ ∈ history →
      page.next.hasMore = true → Paged history name window page.next.token

/-- An item that the window lists is stored, or is on the pages from the token on. -/
def Covered (s : State Payload Token) (stream : Stream) (window : Window) (token : Option Token) :
    Prop :=
  ∀ i, P.lists stream window i →
    Stored P s i ∨ ∀ pages, P.Follows stream window token pages → P.Yields pages i

/-- The token pages the window. -/
structure Paging (s : State Payload Token) (name : StreamName) (window : Window)
    (token : Option Token) : Prop where
  covered : Covered P s name.stream window token
  paged : Paged s.history name window token

/-- What a step never takes away. -/
structure Grows (s s' : State Payload Token) : Prop where
  rows : ∀ p ∈ s.db.rows.map (·.payload), p ∈ s'.db.rows.map (·.payload)
  history : ∀ c ∈ s.history, c ∈ s'.history

variable {P} {s s' : State Payload Token} {name : StreamName} {window : Window}
  {token : Option Token}

section
omit [DecidableEq Payload]

theorem Grows.stored (h : Grows s s') {i : Item} (hi : Stored P s i) : Stored P s' i := by
  obtain ⟨obs, hobs, hitem⟩ := hi
  exact ⟨obs, h.rows obs hobs, hitem⟩

theorem Paged.mono {history history' : List (Commit Payload Token)}
    (h : Paged history name window token) (hsub : ∀ c ∈ history, c ∈ history') :
    Paged history' name window token := by
  induction h with
  | first => exact .first
  | next _ hmem hmore ih => exact .next ih (hsub _ hmem) hmore

theorem Paging.mono (h : Paging P s name window token) (hg : Grows s s') :
    Paging P s' name window token where
  covered := fun i hi => (h.covered i hi).imp hg.stored id
  paged := h.paged.mono hg.history

/-- Before the first page everything is still to come. -/
theorem Paging.first (hP : P.Consistent) : Paging P s name window none where
  covered := fun _ hi => .inr fun _ hpages => hP.complete hpages hi
  paged := .first

end

theorem Effect.grows {a : Action Payload Token} (h : Effect P s a s') : Grows s s' := by
  cases h with
  | opened _ hopen =>
    refine ⟨fun p hp => ?_, fun c hc => hc⟩
    obtain ⟨-, rfl, -⟩ | ⟨_, _, -, -, -, rfl, -⟩ := hopen
    · exact hp
    · exact hp
  | @committed k r st window token page _ _ =>
    refine ⟨fun p hp => ?_, fun c hc => List.mem_cons_of_mem _ hc⟩
    exact (storePage_mem r.name.stream p page.items s.db).mpr (.inr hp)
  | fetched => exact ⟨fun _ hp => hp, fun _ hc => hc⟩
  | finished => exact ⟨fun _ hp => hp, fun _ hc => hc⟩
  | ended => exact ⟨fun _ hp => hp, fun _ hc => hc⟩

/-! ### The invariant of a cursor -/

/-- The window of the last commit under a name. -/
def lastWindow (history : List (Commit Payload Token)) (name : StreamName) : Option Window :=
  (history.find? fun c => c.name = name).map (·.window)

variable (P)

/-- What a call knows: its token pages its window, and after the last page the items of the window
are stored. -/
def Knows (s : State Payload Token) (name : StreamName) : Progress Payload Token → Prop
  | .fetching _ window token => Paging P s name window token
  | .committing _ window token page =>
    Paging P s name window token ∧ P.serves name.stream window token page
  | .returning (some window) => ∀ i, P.lists name.stream window i → Stored P s i
  | .returned (some window) => ∀ i, P.lists name.stream window i → Stored P s i
  | _ => True

/-- The invariant of a cursor and of the calls on it. -/
structure Inv (name : StreamName) (s : State Payload Token) : Prop where
  pending : ∀ {st token windowEnd}, s.db.cursors name = some st → st.pageToken = some token →
    st.windowEnd = some windowEnd → ∃ window, lastWindow s.history name = some window ∧
      window.end_ = windowEnd ∧ Paging P s name window (some token)
  calls : ∀ {k r progress}, s.calls k = some (r, progress) → r.name = name →
    Knows P s name progress

variable {P}

/-- A call that resumes a token starts its window where the last commit under its name did. -/
def Action.Resumes (s : State Payload Token) : Action Payload Token → Prop
  | .start _ _ r _ => ∀ st token windowEnd window, s.db.cursors r.name = some st →
      st.pageToken = some token → st.windowEnd = some windowEnd →
      lastWindow s.history r.name = some window → r.windowStart st = window.start
  | _ => True

omit [DecidableEq Payload] in
theorem Knows.mono {progress : Progress Payload Token} (h : Knows P s name progress)
    (hg : Grows s s') : Knows P s' name progress := by
  cases progress with
  | fetching => exact Paging.mono h hg
  | committing => exact ⟨h.1.mono hg, h.2⟩
  | returning window =>
    cases window with
    | none => trivial
    | some window => exact fun i hi => hg.stored (h i hi)
  | returned window =>
    cases window with
    | none => trivial
    | some window => exact fun i hi => hg.stored (h i hi)
  | gap => trivial
  | crashed => trivial

omit [DecidableEq Payload] in
/-- The calls after one of them has gone on. -/
theorem goOn_calls {k k' : Nat} {r r' : Request} {progress progress' : Progress Payload Token}
    (h : (s.goOn k r progress).calls k' = some (r', progress')) :
    (r' = r ∧ progress' = progress) ∨ s.calls k' = some (r', progress') := by
  have h' : Function.update s.calls k (some (r, progress)) k' = some (r', progress') := h
  by_cases hk : k' = k
  · subst hk
    rw [Function.update_self, Option.some.injEq, Prod.mk.injEq] at h'
    exact .inl ⟨h'.1.symm, h'.2.symm⟩
  · rw [Function.update_of_ne hk] at h'
    exact .inr h'

omit [DecidableEq Payload] in
/-- What a call plans to fetch first. -/
theorem plan_knows (hP : P.Consistent) {cfg : IngestionConfig} {r : Request}
    {st : CursorState Token} {now : Time}
    (hpending : ∀ token windowEnd, st.pageToken = some token → st.windowEnd = some windowEnd →
      Paging P s name ⟨r.windowStart st, windowEnd⟩ (some token)) :
    Knows P s name (plan cfg r st now) := by
  unfold plan
  split
  · rename_i token windowEnd htoken hend
    dsimp only
    split
    · trivial
    · exact hpending token windowEnd htoken hend
  · dsimp only
    split
    · trivial
    split
    · trivial
    · exact Paging.first hP

omit [DecidableEq Payload] in
/-- A call goes on after a page or returns after the last one. -/
theorem Knows.ite {more : Bool} {next last : Progress Payload Token}
    (hnext : more = true → Knows P s name next) (hlast : more = false → Knows P s name last) :
    Knows P s name (if more then next else last) := by
  cases more with
  | true => exact hnext rfl
  | false => exact hlast rfl

omit [DecidableEq Payload] in
/-- After a page, the next token pages the window; after the last one, the window is stored. -/
theorem Paging.page {page : Page Payload Token} (h : Paging P s name window token)
    (hserves : P.serves name.stream window token page) (hg : Grows s s')
    (hitems : ∀ obs ∈ page.items, obs ∈ s'.db.rows.map (·.payload))
    (hcommit : ⟨name, window, token, page⟩ ∈ s'.history) :
    (page.next.hasMore = true → Paging P s' name window page.next.token) ∧
      (page.next.hasMore = false → ∀ i, P.lists name.stream window i → Stored P s' i) := by
  constructor
  · intro hmore
    refine ⟨fun i hi => ?_, .next (h.paged.mono hg.history) hcommit hmore⟩
    obtain hstored | hyields := h.covered i hi
    · exact .inl (hg.stored hstored)
    · -- Either this page has the item, or every continuation of it has.
      by_cases hpage : ∃ obs ∈ page.items, P.item obs = i
      · obtain ⟨obs, hobs, hitem⟩ := hpage
        exact .inl ⟨obs, hitems obs hobs, hitem⟩
      · right
        intro pages hpages
        obtain ⟨page', hpage', hitem⟩ := hyields _ (.next hserves hmore hpages)
        obtain rfl | hrest := List.mem_cons.mp hpage'
        · exact absurd hitem hpage
        · exact ⟨page', hrest, hitem⟩
  · intro hlast i hi
    obtain hstored | hyields := h.covered i hi
    · exact hg.stored hstored
    · obtain ⟨page', hpage', obs, hobs, hitem⟩ := hyields _ (.last hserves hlast)
      obtain rfl := List.mem_singleton.mp hpage'
      exact ⟨obs, hitems obs hobs, hitem⟩

omit [DecidableEq Payload] in
/-- A cursor that the step does not write keeps its invariant. -/
theorem Inv.frame (h : Inv P name s) (hg : Grows s s')
    (hcursor : s'.db.cursors name = s.db.cursors name)
    (hlast : lastWindow s'.history name = lastWindow s.history name)
    (hcalls : ∀ {k r progress}, s'.calls k = some (r, progress) → r.name = name →
      s.calls k = some (r, progress) ∨ Knows P s' name progress) : Inv P name s' where
  pending := by
    intro st token windowEnd hst htoken hend
    rw [hcursor] at hst
    obtain ⟨window, hwindow, hend', hpaging⟩ := h.pending hst htoken hend
    exact ⟨window, hlast.trans hwindow, hend', hpaging.mono hg⟩
  calls := by
    intro k r progress hk hname
    obtain hold | hnew := hcalls hk hname
    · exact (h.calls hold hname).mono hg
    · exact hnew

/-- One step keeps the invariant of a cursor, if a call on it resumes where it should. -/
theorem Inv.effect (hP : P.Consistent) {a : Action Payload Token} (h : Inv P name s)
    (hstep : Effect P s a s')
    (hresumes : ∀ k cfg r now, a = .start k cfg r now → r.name = name → a.Resumes s) :
    Inv P name s' := by
  have hg := hstep.grows
  cases hstep with
  | @opened k cfg r now st db initialStart hk hopen =>
    obtain ⟨hst, rfl, rfl⟩ | ⟨start, overlap, hst, -, rfl, rfl, rfl⟩ := hopen
    · refine h.frame hg rfl rfl fun {k' r' progress} hk' hname => ?_
      obtain ⟨rfl, rfl⟩ | hold := goOn_calls hk'
      · -- The call resumes the window that the invariant knows.
        right
        refine plan_knows hP fun token windowEnd htoken hend => ?_
        rw [← hname] at h ⊢
        obtain ⟨window, hwindow, hend', hpaging⟩ := h.pending hst htoken hend
        have hstart := hresumes k cfg _ now rfl hname st token windowEnd window hst htoken hend hwindow
        have hsame : (⟨r'.windowStart st, windowEnd⟩ : Window) = window := by rw [hstart, ← hend']
        rw [hsame]
        exact hpaging.mono hg
      · exact .inl hold
    · -- A new cursor has no token.
      have hfresh : ∀ {r' : Request} {progress : Progress Payload Token},
          (r' = r ∧ progress = plan cfg r ⟨start, none, none, overlap⟩ now) →
          ∀ {s' : State Payload Token}, Knows P s' name progress := by
        rintro r' progress ⟨-, rfl⟩ s'
        exact plan_knows hP fun token windowEnd htoken => by cases htoken
      constructor
      · intro st token windowEnd hst' htoken hend
        have hst'' : Function.update s.db.cursors r.name (some ⟨start, none, none, overlap⟩) name =
          some st := hst'
        by_cases hname : name = r.name
        · rw [hname, Function.update_self, Option.some.injEq] at hst''
          rw [← hst''] at htoken
          cases htoken
        · rw [Function.update_of_ne hname] at hst''
          obtain ⟨window, hwindow, hend', hpaging⟩ := h.pending hst'' htoken hend
          exact ⟨window, hwindow, hend', hpaging.mono hg⟩
      · intro k' r' progress hk' hname
        obtain hnew | hold := goOn_calls hk'
        · exact hfresh hnew
        · exact (h.calls hold hname).mono hg
  | @fetched k r st window token page hk hserves =>
    refine h.frame hg rfl rfl fun hk' hname => ?_
    obtain ⟨rfl, rfl⟩ | hold := goOn_calls hk'
    · exact .inr ⟨(h.calls hk hname).mono hg, hname ▸ hserves⟩
    · exact .inl hold
  | @committed k r st window token page hk hcursor =>
    by_cases hname : r.name = name
    · have hmem : ∀ obs ∈ page.items, obs ∈ (s.db.storePage r.name.stream page.items).rows.map
          (·.payload) := fun obs hobs => (storePage_mem _ obs page.items s.db).mpr (.inl hobs)
      obtain ⟨hpaging, hserves⟩ := h.calls hk hname
      obtain ⟨hmore, hdone⟩ := hpaging.page hserves hg hmem (hname ▸ List.mem_cons_self)
      constructor
      · intro st' token' windowEnd hst' htoken hend
        have hst'' : Function.update (s.db.storePage r.name.stream page.items).cursors r.name
          (some (State.nextState st window page)) name = some st' := hst'
        rw [hname, Function.update_self, Option.some.injEq] at hst''
        rw [← hst''] at htoken hend
        unfold State.nextState at htoken hend
        split at htoken
        · rename_i hhas
          rw [if_pos hhas] at hend
          obtain rfl := Option.some.inj hend
          refine ⟨window, ?_, rfl, ?_⟩
          · show ((_ :: s.history).find? _).map _ = _
            rw [List.find?_cons_of_pos (by simpa using hname)]
            rfl
          · have hnext := hmore hhas
            have htoken' : page.next.token = some token' := htoken
            rw [← htoken']
            exact hnext
        · cases htoken
      · intro k' r' progress hk' hname'
        obtain ⟨rfl, rfl⟩ | hold := goOn_calls hk'
        · exact Knows.ite hmore hdone
        · exact (h.calls hold hname').mono hg
    · refine h.frame hg ?_ ?_ fun hk' hname' => ?_
      · show Function.update (s.db.storePage r.name.stream page.items).cursors r.name _ name = _
        rw [Function.update_of_ne fun h => hname h.symm, storePage_cursors]
      · show ((_ :: s.history).find? _).map _ = _
        rw [List.find?_cons_of_neg (by simpa using hname)]
        rfl
      · obtain ⟨rfl, rfl⟩ | hold := goOn_calls hk'
        · exact absurd hname' hname
        · exact .inl hold
  | @finished k r window hk =>
    refine h.frame hg rfl rfl fun hk' hname => ?_
    obtain ⟨rfl, rfl⟩ | hold := goOn_calls hk'
    · right
      have hknows := (h.calls hk hname).mono hg
      cases window with
      | none => trivial
      | some window => exact hknows
    · exact .inl hold
  | ended hend =>
    refine h.frame hg rfl rfl fun hk' hname => ?_
    obtain ⟨rfl, rfl⟩ | hold := goOn_calls hk'
    · right
      obtain rfl | rfl := hend <;> trivial
    · exact .inl hold

/-! ### The rows -/

/-- Every stored payload has one row and one event, and what was committed is stored. -/
structure RowsInv (s : State Payload Token) : Prop where
  nodup : (s.db.rows.map (·.payload)).Nodup
  outbox : s.db.outbox = s.db.rows.map (·.payload)
  committed : ∀ c ∈ s.history, ∀ obs ∈ c.page.items, obs ∈ s.db.rows.map (·.payload)

theorem storeObservation_rows {db : Db Payload Token} (stream : Stream) (obs : Payload)
    (h : (db.rows.map (·.payload)).Nodup ∧ db.outbox = db.rows.map (·.payload)) :
    ((db.storeObservation stream obs).rows.map (·.payload)).Nodup ∧
      (db.storeObservation stream obs).outbox =
        (db.storeObservation stream obs).rows.map (·.payload) := by
  obtain ⟨hnodup, houtbox⟩ := h
  unfold Db.storeObservation
  split
  · exact ⟨hnodup, houtbox⟩
  · rename_i hnew
    unfold Db.emit
    rw [if_neg (by rw [houtbox]; exact hnew)]
    show (List.map RawRow.payload (db.rows ++ [⟨obs, stream⟩])).Nodup ∧
      db.outbox ++ [obs] = List.map RawRow.payload (db.rows ++ [⟨obs, stream⟩])
    rw [List.map_append, houtbox]
    refine ⟨List.Nodup.append hnodup (List.nodup_singleton obs) ?_, rfl⟩
    exact List.disjoint_singleton.mpr hnew

theorem storePage_rows (stream : Stream) : ∀ (items : List Payload) {db : Db Payload Token},
    (db.rows.map (·.payload)).Nodup ∧ db.outbox = db.rows.map (·.payload) →
    ((db.storePage stream items).rows.map (·.payload)).Nodup ∧
      (db.storePage stream items).outbox = (db.storePage stream items).rows.map (·.payload) := by
  intro items
  induction items with
  | nil => intro db h; exact h
  | cons obs items ih => intro db h; exact ih (storeObservation_rows stream obs h)

theorem RowsInv.effect {a : Action Payload Token} (h : RowsInv s) (hstep : Effect P s a s') :
    RowsInv s' := by
  cases hstep with
  | opened _ hopen =>
    obtain ⟨-, rfl, -⟩ | ⟨_, _, -, -, -, rfl, -⟩ := hopen
    · exact ⟨h.nodup, h.outbox, h.committed⟩
    · exact ⟨h.nodup, h.outbox, h.committed⟩
  | @committed k r st window token page _ _ =>
    obtain ⟨hnodup, houtbox⟩ := storePage_rows r.name.stream page.items ⟨h.nodup, h.outbox⟩
    refine ⟨hnodup, houtbox, fun c hc obs hobs => ?_⟩
    refine (storePage_mem r.name.stream obs page.items s.db).mpr ?_
    obtain rfl | hc := List.mem_cons.mp hc
    · exact .inl hobs
    · exact .inr (h.committed c hc obs hobs)
  | fetched => exact ⟨h.nodup, h.outbox, h.committed⟩
  | finished => exact ⟨h.nodup, h.outbox, h.committed⟩
  | ended => exact ⟨h.nodup, h.outbox, h.committed⟩

/-! ### Polls -/

/-- The window lies after the overlap, and ends beyond the high water. -/
def Ahead (st : CursorState Token) (window : Window) : Prop :=
  window.start = st.highWater - seconds st.overlapSeconds ∧ st.highWater < window.end_

/-- The cursor and the window of a call that is between two pages. -/
def Progress.turn : Progress Payload Token → Option (CursorState Token × Window)
  | .fetching st window _ => some (st, window)
  | .committing st window _ _ => some (st, window)
  | _ => none

variable (P)

/-- The invariant of the cursor of a poll. -/
structure PollInv (name : StreamName) (s : State Payload Token) : Prop where
  below : ∀ {st}, s.db.cursors name = some st → ∃ initial, s.initialStart name = some initial ∧
    initial ≤ st.highWater ∧ ∀ i, P.lists name.stream ⟨initial, st.highWater⟩ i →
      P.asOf i < st.highWater → Stored P s i
  pending : ∀ {st token windowEnd window}, s.db.cursors name = some st →
    st.pageToken = some token → st.windowEnd = some windowEnd →
    lastWindow s.history name = some window → window.end_ = windowEnd → Ahead st window
  calls : ∀ {k r progress st window}, s.calls k = some (r, progress) → r.name = name →
    progress.turn = some (st, window) → Ahead st window

variable {P}

omit [DecidableEq Payload] in
/-- A poll that resumes starts its window where the interrupted one did. -/
theorem PollInv.resumes (h : Inv P name s) (hp : PollInv P name s) (htag : name.tag = none)
    {k : Nat} {cfg : IngestionConfig} {r : Request} {now : Time} (hname : r.name = name) :
    (Action.start k cfg r now : Action Payload Token).Resumes s := by
  intro st token windowEnd window hst htoken hend hwindow
  rw [hname] at hst hwindow
  obtain ⟨window', hwindow', hend', -⟩ := h.pending hst htoken hend
  obtain rfl : window' = window := by rw [hwindow'] at hwindow; exact Option.some.inj hwindow
  obtain ⟨hstart, -⟩ := hp.pending hst htoken hend hwindow hend'
  cases r with
  | poll stream initialStart until_ => exact hstart.symm
  | collectWindow stream start end_ tag =>
    rw [← hname] at htag
    cases htag

omit [DecidableEq Payload] in
/-- What a poll plans lies ahead of its cursor. -/
theorem plan_ahead {cfg : IngestionConfig} {r : Request} {st : CursorState Token} {now : Time}
    (htag : r.name.tag = none)
    (hpending : ∀ token windowEnd, st.pageToken = some token → st.windowEnd = some windowEnd →
      st.highWater < windowEnd) {st' : CursorState Token} {window : Window}
    (h : (plan cfg r st now : Progress Payload Token).turn = some (st', window)) :
    st' = st ∧ Ahead st window := by
  cases r with
  | collectWindow => cases htag
  | poll stream initialStart until_ =>
    unfold plan at h
    split at h
    · rename_i token windowEnd htoken hend
      dsimp only at h
      split at h
      · cases h
      · obtain ⟨rfl, rfl⟩ := Prod.mk.injEq _ _ _ _ ▸ (Option.some.inj h)
        exact ⟨rfl, rfl, hpending token windowEnd htoken hend⟩
    · dsimp only at h
      split at h
      · cases h
      rename_i hnew
      split at h
      · cases h
      · obtain ⟨rfl, rfl⟩ := Prod.mk.injEq _ _ _ _ ▸ (Option.some.inj h)
        exact ⟨rfl, rfl, Int.not_le.mp hnew⟩

omit [DecidableEq Payload] in
/-- What lies below the high water of the next window is below that of the last, or in the window. -/
theorem below_advanced (hP : P.Consistent) {stream : Stream} {initial : Time}
    {st : CursorState Token} (hahead : Ahead st window)
    (hbelow : ∀ i, P.lists stream ⟨initial, st.highWater⟩ i → P.asOf i < st.highWater → Stored P s i)
    (hwindow : ∀ i, P.lists stream window i → Stored P s i) :
    ∀ i, P.lists stream ⟨initial, window.end_⟩ i → P.asOf i < window.end_ → Stored P s i := by
  intro i hi hlt
  obtain ⟨hstart, -⟩ := hahead
  by_cases hold : P.asOf i < st.highWater
  · have hfrom : initial ≤ P.asOf i := hP.inside hi
    have hlists : P.lists stream ⟨initial, st.highWater⟩ i := hP.between hi hfrom hold
    exact hbelow i hlists hold
  · -- The window starts at the old high water, less the overlap.
    have hoverlap : (0 : Int) ≤ seconds st.overlapSeconds :=
      Int.mul_nonneg (by decide) (Int.natCast_nonneg _)
    have hfrom : window.start ≤ P.asOf i := by
      rw [hstart]
      exact Int.le_trans (Int.sub_le_self _ hoverlap) (Int.not_lt.mp hold)
    exact hwindow i (hP.between hi hfrom hlt)

/-- One step keeps the invariant of the cursor of a poll. -/
theorem PollInv.effect (hP : P.Consistent) {a : Action Payload Token} (h : Inv P name s)
    (hp : PollInv P name s) (htag : name.tag = none) (hstep : Effect P s a s')
    (h' : Inv P name s') : PollInv P name s' := by
  have hg := hstep.grows
  -- Of a cursor that stays, what was stored below its high water is.
  have hkeep : ∀ {st}, s.db.cursors name = some st → s'.initialStart name = s.initialStart name →
      ∃ initial, s'.initialStart name = some initial ∧ initial ≤ st.highWater ∧
        ∀ i, P.lists name.stream ⟨initial, st.highWater⟩ i → P.asOf i < st.highWater →
          Stored P s' i := by
    intro st hst hinitial
    obtain ⟨initial, hsome, hle, hall⟩ := hp.below hst
    exact ⟨initial, hinitial.trans hsome, hle, fun i hi hlt => hg.stored (hall i hi hlt)⟩
  cases hstep with
  | @opened k cfg r now st db initialStart hk hopen =>
    obtain ⟨hst, rfl, rfl⟩ | ⟨start, overlap, hst, -, rfl, rfl, rfl⟩ := hopen
    · refine ⟨fun hst' => hkeep hst' rfl, fun hst' => hp.pending hst', ?_⟩
      intro k' r' progress st' window hk' hname hturn
      obtain ⟨rfl, rfl⟩ | hold := goOn_calls hk'
      · obtain ⟨rfl, hahead⟩ := plan_ahead (by rw [hname]; exact htag) (fun token windowEnd htoken hend => by
          rw [hname] at hst
          obtain ⟨w, hw, hw', -⟩ := h.pending hst htoken hend
          rw [← hw']
          exact (hp.pending hst htoken hend hw hw').2) hturn
        exact hahead
      · exact hp.calls hold hname hturn
    · have hcursors : ∀ {st'}, Function.update s.db.cursors r.name
          (some ⟨start, none, none, overlap⟩) name = some st' →
          (name = r.name ∧ st' = ⟨start, none, none, overlap⟩) ∨
            (name ≠ r.name ∧ s.db.cursors name = some st') := by
        intro st' hst'
        by_cases hname : name = r.name
        · rw [hname, Function.update_self] at hst'
          exact .inl ⟨hname, (Option.some.inj hst').symm⟩
        · rw [Function.update_of_ne hname] at hst'
          exact .inr ⟨hname, hst'⟩
      refine ⟨fun {st'} hst' => ?_, fun {st'} token windowEnd window hst' htoken => ?_, ?_⟩
      · obtain ⟨hname, rfl⟩ | ⟨hname, hold⟩ := hcursors hst'
        · refine ⟨start, ?_, Int.le_refl start, fun i hi hlt => ?_⟩
          · show Function.update s.initialStart r.name (some start) name = some start
            rw [hname, Function.update_self]
          · exact absurd (hP.inside hi) (Int.not_le.mpr hlt)
        · refine hkeep hold ?_
          show Function.update s.initialStart r.name (some start) name = _
          rw [Function.update_of_ne hname]
      · obtain ⟨-, rfl⟩ | ⟨-, hold⟩ := hcursors hst'
        · cases htoken
        · exact hp.pending hold htoken
      · intro k' r' progress st' window hk' hname hturn
        obtain ⟨rfl, rfl⟩ | hold := goOn_calls hk'
        · obtain ⟨rfl, hahead⟩ := plan_ahead (by rw [hname]; exact htag)
            (fun token windowEnd htoken => by cases htoken) hturn
          exact hahead
        · exact hp.calls hold hname hturn
  | @fetched k r st window token page hk hserves =>
    refine ⟨fun hst' => hkeep hst' rfl, fun hst' => hp.pending hst', ?_⟩
    intro k' r' progress st' window' hk' hname hturn
    obtain ⟨rfl, rfl⟩ | hold := goOn_calls hk'
    · exact hp.calls hk hname hturn
    · exact hp.calls hold hname hturn
  | @committed k r st window token page hk hcursor =>
    by_cases hname : r.name = name
    · have hahead : Ahead st window := hp.calls hk hname rfl
      rw [hname] at hcursor
      obtain ⟨initial, hinitial, hle, hbelow⟩ := hp.below hcursor
      have hnext : ∀ {st'}, Function.update (s.db.storePage r.name.stream page.items).cursors r.name
          (some (State.nextState st window page)) name = some st' →
          st' = State.nextState st window page := by
        intro st' hst'
        rw [hname, Function.update_self] at hst'
        exact (Option.some.inj hst').symm
      by_cases hmore : page.next.hasMore = true
      · have hstate : State.nextState st window page = st.withPage page.next.token window.end_ :=
          if_pos hmore
        refine ⟨fun {st'} hst' => ?_, fun {st' token' windowEnd window'} hst' _ _ hlast _ => ?_, ?_⟩
        · rw [hnext hst', hstate]
          exact ⟨initial, hinitial, hle, fun i hi hlt => hg.stored (hbelow i hi hlt)⟩
        · have hsame : ((_ :: s.history).find? _).map _ = some window' := hlast
          rw [List.find?_cons_of_pos (by simpa using hname)] at hsame
          obtain rfl : window = window' := Option.some.inj hsame
          rw [hnext hst', hstate]
          exact hahead
        · intro k' r' progress st' window' hk' hname' hturn
          obtain ⟨-, rfl⟩ | hold := goOn_calls hk'
          · rw [if_pos hmore, hstate] at hturn
            obtain ⟨rfl, rfl⟩ := Prod.mk.injEq _ _ _ _ ▸ (Option.some.inj hturn)
            exact hahead
          · exact hp.calls hold hname' hturn
      · have hstate : State.nextState st window page = st.advanced window.end_ := if_neg hmore
        refine ⟨fun {st'} hst' => ?_, fun {st' token' windowEnd window'} hst' htoken => ?_, ?_⟩
        · rw [hnext hst', hstate]
          -- The call that commits the last page knows that its window is stored.
          have hwindow := @h'.calls k r (.returning (some window)) (by
            show Function.update s.calls k _ k = _
            rw [Function.update_self, if_neg hmore]) hname
          refine ⟨initial, hinitial, ?_, ?_⟩
          · exact Int.le_of_lt (Int.lt_of_le_of_lt hle hahead.2)
          · exact below_advanced hP hahead (fun i hi hlt => hg.stored (hbelow i hi hlt)) hwindow
        · rw [hnext hst', hstate] at htoken
          cases htoken
        · intro k' r' progress st' window' hk' hname' hturn
          obtain ⟨-, rfl⟩ | hold := goOn_calls hk'
          · rw [if_neg hmore] at hturn
            cases hturn
          · exact hp.calls hold hname' hturn
    · have hcursors : ({ s with
          db := (s.db.storePage r.name.stream page.items).save r.name
            (State.nextState st window page) } : State Payload Token).db.cursors name =
          s.db.cursors name := by
        show Function.update (s.db.storePage r.name.stream page.items).cursors r.name _ name = _
        rw [Function.update_of_ne fun h => hname h.symm, storePage_cursors]
      refine ⟨fun {st'} hst' => ?_, fun {st' token' windowEnd window'} hst' htoken hend hlast => ?_, ?_⟩
      · exact hkeep (hcursors.symm.trans hst') rfl
      · refine hp.pending (hcursors.symm.trans hst') htoken hend ?_
        have hlast' : ((_ :: s.history).find? _).map _ = some window' := hlast
        rw [List.find?_cons_of_neg (by simpa using hname)] at hlast'
        exact hlast'
      · intro k' r' progress st' window' hk' hname' hturn
        obtain ⟨rfl, rfl⟩ | hold := goOn_calls hk'
        · exact absurd hname' hname
        · exact hp.calls hold hname' hturn
  | @finished k r window hk =>
    refine ⟨fun hst' => hkeep hst' rfl, fun hst' => hp.pending hst', ?_⟩
    intro k' r' progress st' window' hk' hname hturn
    obtain ⟨rfl, rfl⟩ | hold := goOn_calls hk'
    · cases hturn
    · exact hp.calls hold hname hturn
  | ended hend =>
    refine ⟨fun hst' => hkeep hst' rfl, fun hst' => hp.pending hst', ?_⟩
    intro k' r' progress st' window' hk' hname hturn
    obtain ⟨rfl, rfl⟩ | hold := goOn_calls hk'
    · obtain rfl | rfl := hend <;> cases hturn
    · exact hp.calls hold hname hturn

/-! ### Every run -/

/-- The high water of a cursor does not fall, and moves only to the end of a window, in the commit of
its last page, when all pages before that one are committed. -/
def Advances (s : State Payload Token) (name : StreamName) (a : Action Payload Token)
    (s' : State Payload Token) : Prop :=
  ∀ st, s.db.cursors name = some st → ∃ st', s'.db.cursors name = some st' ∧
    st.highWater ≤ st'.highWater ∧ (st'.highWater ≠ st.highWater →
      ∃ k r window token page, a = .commit k ∧
        s.calls k = some (r, .committing st window token page) ∧ r.name = name ∧
        page.next.hasMore = false ∧ st'.highWater = window.end_ ∧
        Paged s.history name window token)

theorem Effect.advances {a : Action Payload Token} (h : Inv P name s) (hp : PollInv P name s)
    (hstep : Effect P s a s') : Advances s name a s' := by
  intro st hst
  have hstays : s'.db.cursors name = s.db.cursors name →
      ∃ st', s'.db.cursors name = some st' ∧ st.highWater ≤ st'.highWater ∧
        (st'.highWater ≠ st.highWater → ∃ k r window token page, a = .commit k ∧
          s.calls k = some (r, .committing st window token page) ∧ r.name = name ∧
          page.next.hasMore = false ∧ st'.highWater = window.end_ ∧
          Paged s.history name window token) := by
    intro hsame
    exact ⟨st, hsame.trans hst, Int.le_refl _, fun h => absurd rfl h⟩
  cases hstep with
  | @opened k cfg r now st₀ db initialStart hk hopen =>
    obtain ⟨-, rfl, rfl⟩ | ⟨start, overlap, hnone, -, rfl, rfl, rfl⟩ := hopen
    · exact hstays rfl
    · -- The cursor that is created is another one.
      have hname : name ≠ r.name := by
        rintro rfl
        rw [hnone] at hst
        cases hst
      refine hstays ?_
      show Function.update s.db.cursors r.name _ name = _
      rw [Function.update_of_ne hname]
  | fetched => exact hstays rfl
  | @committed k r st₀ window token page hk hcursor =>
    by_cases hname : r.name = name
    · obtain rfl : st₀ = st := by
        rw [hname, hst] at hcursor
        exact (Option.some.inj hcursor).symm
      refine ⟨State.nextState st₀ window page, ?_, ?_⟩
      · show Function.update (s.db.storePage r.name.stream page.items).cursors r.name _ name = _
        rw [hname, Function.update_self]
      by_cases hmore : page.next.hasMore = true
      · have hstate : State.nextState st₀ window page = st₀.withPage page.next.token window.end_ :=
          if_pos hmore
        rw [hstate]
        exact ⟨Int.le_refl _, fun h => absurd rfl h⟩
      · have hstate : State.nextState st₀ window page = st₀.advanced window.end_ := if_neg hmore
        rw [hstate]
        refine ⟨Int.le_of_lt (hp.calls hk hname rfl).2, fun _ => ?_⟩
        have hknows := (h.calls hk hname).1
        exact ⟨k, r, window, token, page, rfl, hk, hname, Bool.eq_false_iff.mpr hmore, rfl,
          hknows.paged⟩
    · refine hstays ?_
      show Function.update (s.db.storePage r.name.stream page.items).cursors r.name _ name = _
      rw [Function.update_of_ne fun h => hname h.symm, storePage_cursors]
  | finished => exact hstays rfl
  | ended => exact hstays rfl

omit [DecidableEq Payload] in
theorem Inv.initial : Inv P name (.initial : State Payload Token) := by
  constructor
  · intro st token windowEnd h
    cases h
  · intro k r progress h
    cases h

omit [DecidableEq Payload] in
theorem PollInv.initial : PollInv P name (.initial : State Payload Token) := by
  constructor
  · intro st h
    cases h
  · intro st token windowEnd window h
    cases h
  · intro k r progress st window h
    cases h

/-- The invariants of a poll hold in every state. -/
theorem poll_invariants [DecidableEq Token] (hP : P.Consistent) (name : StreamName)
    (htag : name.tag = none) {as : List (Action Payload Token)} (hrun : Steps P.Step .initial as s) :
    Inv P name s ∧ PollInv P name s := by
  refine hrun.invariant (P := fun s => Inv P name s ∧ PollInv P name s) ?_ ⟨.initial, .initial⟩
  rintro s a s' ⟨h, hp⟩ hstep
  have heffect := step_effect P hstep
  have h' := h.effect hP heffect fun k cfg r now ha hname => by
    rw [ha]
    exact hp.resumes h htag hname
  exact ⟨h', hp.effect hP h htag heffect h'⟩

theorem rows_invariant [DecidableEq Token] {as : List (Action Payload Token)}
    (hrun : Steps P.Step .initial as s) : RowsInv s :=
  hrun.invariant (P := RowsInv) (fun _ _ _ h hstep => h.effect (step_effect P hstep))
    ⟨List.nodup_nil, rfl, fun _ hc => absurd hc List.not_mem_nil⟩

/-- Polls leave no gap. In every state that collectors reach, everything the provider lists from the
start of a stream to its high water is stored, what is on a committed page has one row and one event,
and the high water never falls and moves only with the last page of a window. -/
theorem collection_has_no_gaps [DecidableEq Token] (hP : P.Consistent) (stream : Stream)
    {as : List (Action Payload Token)} (hrun : Steps P.Step .initial as s) :
    (∀ st, s.db.cursors ⟨none, stream⟩ = some st →
      ∃ initial, s.initialStart ⟨none, stream⟩ = some initial ∧
        ∀ i, P.lists stream ⟨initial, st.highWater⟩ i → P.asOf i < st.highWater → Stored P s i) ∧
    (∀ c ∈ s.history, ∀ obs ∈ c.page.items, obs ∈ s.db.rows.map (·.payload)) ∧
    (∀ obs ∈ s.db.rows.map (·.payload),
      (s.db.rows.map (·.payload)).count obs = 1 ∧ s.db.outbox.count obs = 1) ∧
    ∀ a s', P.Step s a s' → Advances s ⟨none, stream⟩ a s' := by
  obtain ⟨h, hp⟩ := poll_invariants hP ⟨none, stream⟩ rfl hrun
  have hrows := rows_invariant hrun
  refine ⟨fun st hst => ?_, hrows.committed, fun obs hobs => ?_, fun a s' hstep => ?_⟩
  · obtain ⟨initial, hinitial, -, hall⟩ := hp.below hst
    exact ⟨initial, hinitial, hall⟩
  · have hone := List.count_eq_one_of_mem hrows.nodup hobs
    rw [hrows.outbox]
    exact ⟨hone, hone⟩
  · exact (step_effect P hstep).advances h hp

/-! ### Explicit windows -/

/-- The window that a call of `collect_window` asks for. -/
def Request.own : Request → Option Window
  | .poll .. => none
  | .collectWindow _ start end_ _ => some ⟨start, end_⟩

/-- The call is about the window that it asks for. -/
def Own (r : Request) : Progress Payload Token → Prop
  | .fetching _ window _ => r.own = some window
  | .committing _ window _ _ => r.own = some window
  | .returning window => r.own = window
  | .returned window => r.own = window
  | _ => True

/-- The invariant of the cursor of a tag. -/
structure WindowInv (name : StreamName) (s : State Payload Token) : Prop where
  overlap : ∀ {st}, s.db.cursors name = some st → st.overlapSeconds = 0
  calls : ∀ {k r progress}, s.calls k = some (r, progress) → r.name = name → Own r progress

/-- A call of `collect_window` that finds a page token under its tag asks for the window whose page
was last committed under it. -/
def Action.ResumesOwn (s : State Payload Token) : Action Payload Token → Prop
  | .start _ _ r _ => r.name.tag ≠ none → ∀ st token windowEnd, s.db.cursors r.name = some st →
      st.pageToken = some token → st.windowEnd = some windowEnd →
      r.own = lastWindow s.history r.name
  | _ => True

section
omit [DecidableEq Payload]

theorem windowStart_own {r : Request} {st : CursorState Token} (h : st.overlapSeconds = 0)
    {window : Window} (hown : r.own = some window) : r.windowStart st = window.start := by
  cases r with
  | poll => cases hown
  | collectWindow stream start end_ tag =>
    obtain rfl := Option.some.inj hown
    show start - seconds st.overlapSeconds = start
    rw [h]
    exact Int.sub_zero start

theorem WindowInv.resumes (hw : WindowInv name s) (htag : name.tag ≠ none) {k : Nat}
    {cfg : IngestionConfig} {r : Request} {now : Time} (hname : r.name = name)
    (hown : (Action.start k cfg r now : Action Payload Token).ResumesOwn s) :
    (Action.start k cfg r now : Action Payload Token).Resumes s := by
  intro st token windowEnd window hst htoken hend hwindow
  have hsame := hown (by rw [hname]; exact htag) st token windowEnd hst htoken hend
  rw [hname] at hst
  exact windowStart_own (hw.overlap hst) (hsame.trans hwindow)

/-- A call of `collect_window` plans its own window. -/
theorem plan_own {cfg : IngestionConfig} {r : Request} {st : CursorState Token} {now : Time}
    (htag : r.name.tag ≠ none) (hoverlap : st.overlapSeconds = 0)
    (hpending : ∀ token windowEnd, st.pageToken = some token → st.windowEnd = some windowEnd →
      ∃ window, r.own = some window ∧ window.end_ = windowEnd) :
    Own r (plan cfg r st now : Progress Payload Token) := by
  cases r with
  | poll => exact absurd rfl htag
  | collectWindow stream start end_ tag =>
    have hstart : (Request.collectWindow stream start end_ tag).windowStart st = start :=
      windowStart_own hoverlap
        (rfl : (Request.collectWindow stream start end_ tag).own = some ⟨start, end_⟩)
    unfold plan
    split
    · rename_i token windowEnd htoken hend
      obtain ⟨window, hown, rfl⟩ := hpending token windowEnd htoken hend
      obtain rfl := Option.some.inj hown
      dsimp only
      split
      · trivial
      · show some _ = some _
        rw [hstart]
    · dsimp only
      rw [if_neg (id : ¬ (Request.collectWindow stream start end_ tag).nothingNew cfg st now)]
      split
      · trivial
      · show some _ = some _
        rw [hstart]
        rfl

end

/-- One step keeps the invariant of the cursor of a tag. -/
theorem WindowInv.effect {a : Action Payload Token} (h : Inv P name s) (hw : WindowInv name s)
    (htag : name.tag ≠ none) (hstep : Effect P s a s') (hown : a.ResumesOwn s) :
    WindowInv name s' := by
  cases hstep with
  | @opened k cfg r now st db initialStart hk hopen =>
    obtain ⟨hst, rfl, rfl⟩ | ⟨start, overlap, hst, hopening, rfl, rfl, rfl⟩ := hopen
    · refine ⟨fun hst' => hw.overlap hst', fun {k' r' progress} hk' hname => ?_⟩
      obtain ⟨rfl, rfl⟩ | hold := goOn_calls hk'
      · have htag' : r'.name.tag ≠ none := by rw [hname]; exact htag
        refine plan_own htag' (hw.overlap (hname ▸ hst)) fun token windowEnd htoken hend => ?_
        obtain ⟨window, hwindow, hend', -⟩ := h.pending (hname ▸ hst) htoken hend
        refine ⟨window, ?_, hend'⟩
        rw [hown htag' st token windowEnd hst htoken hend, hname]
        exact hwindow
      · exact hw.calls hold hname
    · have hzero : r.name = name → overlap = 0 := by
        intro hname
        cases r with
        | poll => exact absurd (by rw [← hname]; rfl) htag
        | collectWindow => exact (Prod.mk.inj hopening).2.symm
      refine ⟨fun {st'} hst' => ?_, fun {k' r' progress} hk' hname => ?_⟩
      · have hst'' : Function.update s.db.cursors r.name (some ⟨start, none, none, overlap⟩) name =
          some st' := hst'
        by_cases hname : r.name = name
        · rw [hname, Function.update_self, Option.some.injEq] at hst''
          rw [← hst'']
          exact hzero hname
        · rw [Function.update_of_ne fun h => hname h.symm] at hst''
          exact hw.overlap hst''
      · obtain ⟨rfl, rfl⟩ | hold := goOn_calls hk'
        · exact plan_own (by rw [hname]; exact htag) (hzero hname)
            fun token windowEnd htoken => by cases htoken
        · exact hw.calls hold hname
  | @fetched k r st window token page hk hserves =>
    refine ⟨fun hst' => hw.overlap hst', fun hk' hname => ?_⟩
    obtain ⟨hr, rfl⟩ | hold := goOn_calls hk'
    · rw [hr] at hname ⊢
      have hwindow : r.own = some window := hw.calls hk hname
      exact hwindow
    · exact hw.calls hold hname
  | @committed k r st window token page hk hcursor =>
    refine ⟨fun {st'} hst' => ?_, fun {k' r' progress} hk' hname => ?_⟩
    · have hst'' : Function.update (s.db.storePage r.name.stream page.items).cursors r.name
        (some (State.nextState st window page)) name = some st' := hst'
      by_cases hname : r.name = name
      · rw [hname, Function.update_self, Option.some.injEq] at hst''
        have hkept : (State.nextState st window page).overlapSeconds = st.overlapSeconds := by
          unfold State.nextState
          split <;> rfl
        rw [← hst'', hkept]
        exact hw.overlap (hname ▸ hcursor)
      · rw [Function.update_of_ne fun h => hname h.symm, storePage_cursors] at hst''
        exact hw.overlap hst''
    · obtain ⟨rfl, rfl⟩ | hold := goOn_calls hk'
      · have hwindow : r'.own = some window := hw.calls hk hname
        split <;> exact hwindow
      · exact hw.calls hold hname
  | @finished k r window hk =>
    refine ⟨fun hst' => hw.overlap hst', fun hk' hname => ?_⟩
    obtain ⟨hr, rfl⟩ | hold := goOn_calls hk'
    · rw [hr] at hname ⊢
      have hwindow : r.own = window := hw.calls hk hname
      exact hwindow
    · exact hw.calls hold hname
  | ended hend =>
    refine ⟨fun hst' => hw.overlap hst', fun hk' hname => ?_⟩
    obtain ⟨rfl, rfl⟩ | hold := goOn_calls hk'
    · obtain rfl | rfl := hend <;> trivial
    · exact hw.calls hold hname

/-- In a run in which every call of `collect_window` that finds a page token under its tag asks for the
window of the call that was interrupted there, a call that has returned has stored every item that
the provider lists for the window it asked for. -/
theorem collect_window_complete [DecidableEq Token] (hP : P.Consistent)
    {as : List (Action Payload Token)}
    (hrun : Steps (fun s a s' => P.Step s a s' ∧ a.ResumesOwn s) .initial as s)
    {k : Nat} {stream : Stream} {start end_ : Time} {tag : String} {window : Option Window}
    (hreturned : s.calls k = some (.collectWindow stream start end_ tag, .returned window)) :
    ∀ i, P.lists stream ⟨start, end_⟩ i → Stored P s i := by
  have htag : (⟨some tag, stream⟩ : StreamName).tag ≠ none := Option.some_ne_none tag
  have hinv : Inv P ⟨some tag, stream⟩ s ∧ WindowInv ⟨some tag, stream⟩ s := by
    refine hrun.invariant (P := fun s => Inv P ⟨some tag, stream⟩ s ∧
      WindowInv ⟨some tag, stream⟩ s) ?_ ⟨.initial, ?_⟩
    · rintro s a s' ⟨h, hw⟩ ⟨hstep, hown⟩
      have heffect := step_effect P hstep
      have h' := h.effect hP heffect fun k cfg r now ha hname => by
        rw [ha] at hown ⊢
        exact hw.resumes htag hname hown
      exact ⟨h', hw.effect h htag heffect hown⟩
    · constructor
      · intro st h
        cases h
      · intro k r progress h
        cases h
  obtain ⟨h, hw⟩ := hinv
  have hown : some ⟨start, end_⟩ = window := hw.calls hreturned rfl
  rw [← hown] at hreturned
  exact h.calls hreturned rfl

/-! ### The mock provider -/

theorem mockPage_yields {pageSize : Nat} {rows : List Time} {token : Option Nat}
    {page : Page Time Nat} (h : mockPage pageSize rows token = some page) :
    (page.next.hasMore = false → rows.drop (token.getD 0) = page.items) ∧
    (page.next.hasMore = true →
      ∀ t ∈ rows.drop (token.getD 0), t ∈ page.items ∨ t ∈ rows.drop (page.next.token.getD 0)) := by
  unfold mockPage at h
  dsimp only at h
  split at h
  · cases h
  rename_i hstart
  obtain rfl := Option.some.inj h
  constructor
  · intro hlast
    have hend : rows.length ≤ min (token.getD 0 + pageSize) rows.length :=
      Nat.not_lt.mp (of_decide_eq_false hlast)
    show rows.drop _ = (rows.take _).drop _
    rw [List.take_of_length_le hend]
  · intro _ t ht
    -- The rows from the token are those of the page and those from the next token.
    have hsplit := List.take_append_drop (min (token.getD 0 + pageSize) rows.length) rows
    rw [← hsplit, List.drop_append] at ht
    obtain hpage | hrest := List.mem_append.mp ht
    · exact .inl hpage
    · exact .inr (List.mem_of_mem_drop hrest)

/-- The pages of the mock provider from a token on have all rows from its offset on. -/
theorem mock_follows {pageSize : Nat} {rows : Stream → List Time} {stream : Stream}
    {window : Window} {token : Option Nat} {pages : List (Page Time Nat)}
    (h : (mockProvider pageSize rows).Follows stream window token pages) :
    ∀ t ∈ (mockRows (rows stream) window).drop (token.getD 0),
      (mockProvider pageSize rows).Yields pages t := by
  induction h with
  | @last token page hserves hlast =>
    intro t ht
    rw [(mockPage_yields hserves).1 hlast] at ht
    exact ⟨page, List.mem_cons_self, t, ht, rfl⟩
  | @next token page pages hserves hmore _ ih =>
    intro t ht
    obtain hpage | hrest := (mockPage_yields hserves).2 hmore t ht
    · exact ⟨page, List.mem_cons_self, t, hpage, rfl⟩
    · obtain ⟨page', hpage', hyields⟩ := ih t hrest
      exact ⟨page', List.mem_cons_of_mem _ hpage', hyields⟩

theorem mock_consistent (pageSize : Nat) (rows : Stream → List Time) :
    (mockProvider pageSize rows).Consistent where
  inside := fun {stream window i} h => by
    have h' : i ∈ mockRows (rows stream) window := h
    simp only [mockRows, List.mem_filter, decide_eq_true_eq] at h'
    exact h'.2.1
  between := fun {stream window i} h {window'} hstart hend => by
    have h' : i ∈ mockRows (rows stream) window := h
    show i ∈ mockRows (rows stream) window'
    simp only [mockRows, List.mem_filter, decide_eq_true_eq] at h' ⊢
    exact ⟨h'.1, hstart, Int.le_of_lt hend⟩
  complete := by
    intro stream window pages hfollows i hi
    exact mock_follows hfollows i hi

/-- A run with the mock provider is a run. -/
theorem mockRun_steps {pageSize : Nat} {rows : Stream → List Time} :
    ∀ {as : List (Action Time Nat)} {s s' : State Time Nat},
      mockRun pageSize rows s as = some s' → Steps (mockProvider pageSize rows).Step s as s' := by
  intro as
  induction as with
  | nil =>
    intro s s' h
    obtain rfl := Option.some.inj h
    exact .nil s
  | cons a as ih =>
    intro s s' h
    have hother : (mockProvider pageSize rows).Served s a →
        ((s.step a).bind fun s => mockRun pageSize rows s as) = some s' →
        Steps (mockProvider pageSize rows).Step s (a :: as) s' := by
      intro hserved hrest
      obtain ⟨t, hstep, hrest⟩ := Option.bind_eq_some_iff.mp hrest
      exact .cons ⟨hserved, hstep⟩ (ih hrest)
    cases a with
    | fetch k page =>
      unfold mockRun at h
      dsimp only at h
      split at h
      · rename_i r st window token hk
        split at h
        · rename_i hserves
          refine hother ?_ h
          unfold Provider.Served
          dsimp only
          rw [hk]
          exact hserves
        · cases h
      · cases h
    | start => exact hother trivial h
    | expire => exact hother trivial h
    | commit => exact hother trivial h
    | finish => exact hother trivial h
    | crash => exact hother trivial h

namespace Sample

/-- Three items, and no settlement. -/
def rows : Stream → List Time
  | .revenue => [seconds 10, seconds 20, seconds 30]
  | .settlements => []

def cfg : IngestionConfig := ⟨5, 60⟩

/-- The page with one row, up to an offset. -/
def page (row : Nat) (offset : Nat) (hasMore : Bool) : Page Time Nat :=
  ⟨[seconds row], ⟨some offset, hasMore⟩⟩

/-- A re-fetch of the first two items that crashes after the first page. -/
def interrupted : List (Action Time Nat) :=
  [.start 0 cfg (refetchCorrections .revenue (seconds 15) 5 "late") (seconds 100),
    .fetch 0 (page 10 1 true), .commit 0, .crash 0]

/-- The call after it fetches one page and returns. -/
def resumed (r : Request) : List (Action Time Nat) :=
  [.start 1 cfg r (seconds 200), .fetch 1 (page 20 2 false), .commit 1, .finish 1]

/-- The state after some actions. -/
def after (as : List (Action Time Nat)) : State Time Nat :=
  (mockRun 1 rows .initial as).getD .initial

theorem after_eq {as : List (Action Time Nat)} (h : (mockRun 1 rows .initial as).isSome = true) :
    mockRun 1 rows .initial as = some (after as) := by
  obtain ⟨s, hs⟩ := Option.isSome_iff_exists.mp h
  unfold after
  rw [hs]
  rfl

end Sample

/-- The second re-fetch under the tag asks for all three items. It resumes the token of the first with
the end of the window of the first, and returns without the third item. -/
theorem collect_window_skips : ∃ as s, Steps (mockProvider 1 Sample.rows).Step .initial as s ∧
    (mockProvider 1 Sample.rows).Consistent ∧
    s.calls 1 = some (refetchCorrections .revenue (seconds 20) 10 "late",
      .returned (some ⟨seconds 10, seconds 20⟩)) ∧
    (refetchCorrections .revenue (seconds 20) 10 "late").own = some ⟨seconds 10, seconds 30⟩ ∧
    (mockProvider 1 Sample.rows).lists .revenue ⟨seconds 10, seconds 30⟩ (seconds 30) ∧
    ¬ Stored (mockProvider 1 Sample.rows) s (seconds 30) := by
  refine ⟨Sample.interrupted ++ Sample.resumed (refetchCorrections .revenue (seconds 20) 10 "late"),
    _, mockRun_steps (Sample.after_eq (by decide +kernel)), mock_consistent _ _, rfl, rfl, ?_, ?_⟩
  · show seconds 30 ∈ mockRows (Sample.rows .revenue) ⟨seconds 10, seconds 30⟩
    decide +kernel
  · rintro ⟨obs, hobs, hitem⟩
    have hthird : obs = seconds 30 := hitem
    rw [hthird] at hobs
    have hnot : seconds 30 ∉ (Sample.after (Sample.interrupted ++ Sample.resumed
        (refetchCorrections .revenue (seconds 20) 10 "late"))).db.rows.map (·.payload) := by
      decide +kernel
    exact hnot hobs

namespace Sample

theorem restrict_steps {as : List (Action Time Nat)} {s s' : State Time Nat}
    (h : mockRun 1 rows s as = some s') (hall : ∀ a ∈ as, ∀ s : State Time Nat, a.ResumesOwn s) :
    Steps (fun s a s' => (mockProvider 1 rows).Step s a s' ∧ a.ResumesOwn s) s as s' := by
  refine ((mockRun_steps h).restrict hall).mono ?_
  rintro s a s' ⟨hown, hstep⟩
  exact ⟨hstep, hown⟩

/-- The same re-fetch again. -/
def again : List (Action Time Nat) :=
  resumed (refetchCorrections .revenue (seconds 15) 5 "late")

theorem again_steps : Steps (fun s a s' => (mockProvider 1 rows).Step s a s' ∧ a.ResumesOwn s)
    .initial (interrupted ++ again) (after (interrupted ++ again)) := by
  have hfirst : mockRun 1 rows (after (interrupted.take 1)) (interrupted.drop 1) =
      some (after interrupted) := rfl
  have hrest : mockRun 1 rows (after (interrupted ++ again.take 1)) (again.drop 1) =
      some (after (interrupted ++ again)) := rfl
  -- Only the two starts have something to resume.
  have hquiet : ∀ as : List (Action Time Nat), as = interrupted.drop 1 ∨ as = again.drop 1 →
      ∀ a ∈ as, ∀ s : State Time Nat, a.ResumesOwn s := by
    rintro as (rfl | rfl) a ha s
    all_goals
      simp only [interrupted, again, resumed, List.drop_succ_cons, List.drop_zero, List.mem_cons,
        List.not_mem_nil, or_false] at ha
      obtain rfl | rfl | rfl := ha <;> trivial
  refine .cons ⟨⟨trivial, rfl⟩, ?_⟩ ((restrict_steps hfirst (hquiet _ (.inl rfl))).append
    (.cons ⟨⟨trivial, rfl⟩, ?_⟩ (restrict_steps hrest (hquiet _ (.inr rfl)))))
  · intro _ st token windowEnd hst
    cases hst
  · intro _ st token windowEnd _ _ _
    show _ = lastWindow (after interrupted).history _
    decide +kernel

end Sample

/-- The same re-fetch resumes its own window, and has both items when it returns. -/
theorem collect_window_complete_sample :
    (Sample.after (Sample.interrupted ++ Sample.again)).calls 1 =
        some (.collectWindow .revenue (seconds 10) (seconds 20) "refetch:late",
          .returned (some ⟨seconds 10, seconds 20⟩)) ∧
      ∀ i, (mockProvider 1 Sample.rows).lists .revenue ⟨seconds 10, seconds 20⟩ i →
        Stored (mockProvider 1 Sample.rows) (Sample.after (Sample.interrupted ++ Sample.again)) i := by
  have hreturned : (Sample.after (Sample.interrupted ++ Sample.again)).calls 1 =
      some (.collectWindow .revenue (seconds 10) (seconds 20) "refetch:late",
        .returned (some ⟨seconds 10, seconds 20⟩)) := rfl
  exact ⟨hreturned,
    collect_window_complete (mock_consistent 1 Sample.rows) Sample.again_steps hreturned⟩

namespace Sample

/-- A poll that crashes after the first page of its window, and another one that ends it. -/
def polls : List (Action Time Nat) :=
  [.start 0 cfg (.poll .revenue (some (seconds 10)) none) (seconds 20),
    .fetch 0 (page 10 1 true), .commit 0, .crash 0,
    .start 1 cfg (.poll .revenue none none) (seconds 40), .fetch 1 (page 20 2 false), .commit 1,
    .finish 1]

end Sample

/-- Both items below the high water of twenty seconds are stored. -/
theorem collection_has_no_gaps_sample :
    ∃ st, (Sample.after Sample.polls).db.cursors ⟨none, .revenue⟩ = some st ∧
      st.highWater = seconds 20 ∧
      ∃ initial, (Sample.after Sample.polls).initialStart ⟨none, .revenue⟩ = some initial ∧
        ∀ i, (mockProvider 1 Sample.rows).lists .revenue ⟨initial, st.highWater⟩ i →
          id i < st.highWater → Stored (mockProvider 1 Sample.rows) (Sample.after Sample.polls) i := by
  have hrun : Steps (mockProvider 1 Sample.rows).Step .initial Sample.polls
      (Sample.after Sample.polls) := mockRun_steps (Sample.after_eq (by decide +kernel))
  have hcursor : (Sample.after Sample.polls).db.cursors ⟨none, .revenue⟩ =
      some ⟨seconds 20, none, none, 5⟩ := by decide +kernel
  obtain ⟨hbelow, -⟩ := collection_has_no_gaps (mock_consistent 1 Sample.rows) .revenue hrun
  exact ⟨_, hcursor, rfl, hbelow _ hcursor⟩

end Rackline.Ingestion
