import Mathlib.Logic.Function.Basic
import Rackline.Lib.Transition

/-!
# `Rackline.Lib.EventLog`: views folded from an event log

A system emits events as it runs: `Logged` is a state with the events emitted so far, and
`LoggedStep` appends the events `emits s a` of an action. A reader never sees the state. It
folds the log with `apply`, which may refuse an event.

`Projects R` says that the reader comes through and that `R` relates its view to the state.
`projects_of_steps` is the rule for a relation that holds in every run. `projects_iff` gives
the exact condition on a run for a relation that some actions break.
-/

set_option autoImplicit false

namespace EventLog

open Transition

variable {σ α ε ν err : Type}

/-- The view after the events of `log`, if none of them is refused. -/
def fold (apply : ν → ε → Except err ν) (v : ν) (log : List ε) : Except err ν :=
  log.foldlM apply v

section
variable {apply : ν → ε → Except err ν} {v w : ν} {log more : List ε}

@[simp]
theorem fold_nil : fold apply v [] = .ok v := rfl

@[simp]
theorem fold_cons (e : ε) : fold apply v (e :: log) = apply v e >>= fun u => fold apply u log := rfl

@[simp]
theorem fold_single (e : ε) : fold apply v [e] = apply v e := by
  show (apply v e >>= fun u => Except.ok u) = apply v e
  cases apply v e with
  | error x => rfl
  | ok u => rfl

/-- One log after another. -/
theorem fold_bind : fold apply v (log ++ more) = fold apply v log >>= fun u => fold apply u more := by
  unfold fold
  rw [List.foldlM_append]

/-- Reading on from where a reader stopped. -/
theorem fold_append {u : ν} (h : fold apply v log = .ok u) :
    fold apply v (log ++ more) = fold apply u more := by
  rw [fold_bind, h]
  rfl

/-- A reader that stops at an event never reads on. -/
theorem fold_append_error {x : err} (h : fold apply v log = .error x) :
    fold apply v (log ++ more) = .error x := by
  rw [fold_bind, h]
  rfl

/-- An event that is accepted can be read first. -/
theorem fold_cons_ok {e : ε} {u : ν} (he : apply v e = .ok u) :
    fold apply v (e :: log) = fold apply u log := by
  rw [fold_cons, he]
  rfl

end

/-! ### Rows -/

section
variable {κ ρ : Type} [DecidableEq κ] {key : ε → Option κ} {fresh : ρ}
  {apply : ρ → ε → Except err ρ} {v : κ → Option ρ} {k : κ} {r : ρ} {log : List ε}

/-- A reader that keeps one row for each key. The first event of a key starts from `fresh`, and an
event without a key is skipped. -/
def rows (key : ε → Option κ) (fresh : ρ) (apply : ρ → ε → Except err ρ) (v : κ → Option ρ)
    (e : ε) : Except err (κ → Option ρ) :=
  match key e with
  | none => .ok v
  | some k => apply ((v k).getD fresh) e >>= fun r => .ok (Function.update v k (some r))

theorem rows_skip {e : ε} (h : key e = none) : rows key fresh apply v e = .ok v := by
  rw [rows, h]

/-- Events without a key. -/
theorem fold_rows_skip (h : ∀ e ∈ log, key e = none) : fold (rows key fresh apply) v log = .ok v := by
  induction log with
  | nil => rfl
  | cons e log ih =>
    rw [fold_cons_ok (rows_skip (h e List.mem_cons_self))]
    exact ih fun e he => h e (List.mem_cons_of_mem _ he)

/-- Events of one key change its row, and there is a row after the first of them. -/
theorem fold_rows (h : ∀ e ∈ log, key e = some k) (hr : fold apply ((v k).getD fresh) log = .ok r) :
    ∃ w, fold (rows key fresh apply) v log = .ok w ∧ (w k).getD fresh = r ∧
      (∀ i, i ≠ k → w i = v i) ∧ ((v k).isSome = true ∨ log ≠ [] → (w k).isSome = true) := by
  induction log generalizing v with
  | nil =>
    cases hr
    refine ⟨v, rfl, rfl, fun _ _ => rfl, ?_⟩
    rintro (hv | hne)
    · exact hv
    · exact absurd rfl hne
  | cons e log ih =>
    rw [fold_cons] at hr
    cases hu : apply ((v k).getD fresh) e with
    | error x =>
      rw [hu] at hr
      cases hr
    | ok u =>
      rw [hu] at hr
      have he : rows key fresh apply v e = .ok (Function.update v k (some u)) := by
        rw [rows, h e List.mem_cons_self]
        show apply ((v k).getD fresh) e >>= _ = _
        rw [hu]
        rfl
      have hself : (Function.update v k (some u) k).getD fresh = u := by
        rw [Function.update_self]
        rfl
      obtain ⟨w, hw, hrow, hother, hsome⟩ :=
        ih (v := Function.update v k (some u)) (fun e he => h e (List.mem_cons_of_mem _ he))
          (by rw [hself]; exact hr)
      refine ⟨w, by rw [fold_cons_ok he, hw], hrow, fun i hi => ?_, fun _ => hsome (.inl ?_)⟩
      · rw [hother i hi, Function.update_of_ne hi]
      · rw [Function.update_self]
        rfl

/-- Events of one key that its row refuses. -/
theorem fold_rows_error {x : err} (h : ∀ e ∈ log, key e = some k)
    (hr : fold apply ((v k).getD fresh) log = .error x) :
    fold (rows key fresh apply) v log = .error x := by
  induction log generalizing v with
  | nil => cases hr
  | cons e log ih =>
    rw [fold_cons] at hr ⊢
    rw [rows, h e List.mem_cons_self]
    show (apply ((v k).getD fresh) e >>= _) >>= _ = _
    cases hu : apply ((v k).getD fresh) e with
    | error y =>
      rw [hu] at hr
      cases hr
      rfl
    | ok u =>
      rw [hu] at hr
      have hself : (Function.update v k (some u) k).getD fresh = u := by
        rw [Function.update_self]
        rfl
      exact ih (v := Function.update v k (some u)) (fun e he => h e (List.mem_cons_of_mem _ he))
        (by rw [hself]; exact hr)

end

/-- A state and the events emitted on the way to it. -/
structure Logged (σ ε : Type) where
  state : σ
  log : List ε

/-- A step of the system, with the events it emits. -/
def LoggedStep (Step : σ → α → σ → Prop) (emits : σ → α → List ε) (s : Logged σ ε) (a : α)
    (s' : Logged σ ε) : Prop :=
  Step s.state a s'.state ∧ s'.log = s.log ++ emits s.state a

/-- Run a list of actions and collect the events. -/
def run (next : σ → α → Except err σ) (emits : σ → α → List ε) (s : Logged σ ε) :
    List α → Except err (Logged σ ε)
  | [] => .ok s
  | a :: as =>
    match next s.state a with
    | .error e => .error e
    | .ok t => run next emits ⟨t, s.log ++ emits s.state a⟩ as

theorem run_steps {next : σ → α → Except err σ} {Step : σ → α → σ → Prop}
    {emits : σ → α → List ε} (hnext : ∀ s a t, next s a = .ok t → Step s a t) {as : List α}
    {s s' : Logged σ ε} (h : run next emits s as = .ok s') :
    Steps (LoggedStep Step emits) s as s' := by
  induction as generalizing s with
  | nil =>
    cases h
    exact .nil _
  | cons a as ih =>
    unfold run at h
    split at h
    · cases h
    · rename_i t ht
      have hs : LoggedStep Step emits s a ⟨t, s.log ++ emits s.state a⟩ := ⟨hnext _ _ _ ht, rfl⟩
      exact .cons hs (ih h)

/-- The fold of the log comes through, and `R` relates the view to the state. -/
def Projects (apply : ν → ε → Except err ν) (v₀ : ν) (R : ν → σ → Prop) (s : Logged σ ε) : Prop :=
  ∃ v, fold apply v₀ s.log = .ok v ∧ R v s.state

section
variable {Step : σ → α → σ → Prop} {emits : σ → α → List ε} {apply : ν → ε → Except err ν} {v₀ : ν}
  {R P : ν → σ → Prop} {s s' : Logged σ ε} {as : List α}

theorem Projects.imp (h : Projects apply v₀ R s) (himp : ∀ v, R v s.state → P v s.state) :
    Projects apply v₀ P s := by
  obtain ⟨v, hv, hr⟩ := h
  exact ⟨v, hv, himp v hr⟩

/-- Whatever two readers of one log find, they find together. -/
theorem Projects.and (h : Projects apply v₀ R s) (h' : Projects apply v₀ P s) :
    Projects apply v₀ (fun v t => R v t ∧ P v t) s := by
  obtain ⟨v, hv, hr⟩ := h
  obtain ⟨w, hw, hp⟩ := h'
  rw [hv] at hw
  cases hw
  exact ⟨v, hv, hr, hp⟩

theorem Projects.init (hlog : s.log = []) (h : R v₀ s.state) : Projects apply v₀ R s :=
  ⟨v₀, by rw [hlog, fold_nil], h⟩

/-- One more step: the reader continues with the events of the step. -/
theorem Projects.step {a : α} (h : Projects apply v₀ R s) (hs : LoggedStep Step emits s a s')
    (hread : ∀ v, R v s.state → ∃ v', fold apply v (emits s.state a) = .ok v' ∧ P v' s'.state) :
    Projects apply v₀ P s' := by
  obtain ⟨v, hv, hr⟩ := h
  obtain ⟨v', hv', hp⟩ := hread v hr
  refine ⟨v', ?_, hp⟩
  rw [hs.2, fold_append hv, hv']

/-- A relation that holds at the start and that the events of every step carry on holds after
every run. -/
theorem projects_of_steps (hlog : s.log = []) (h₀ : R v₀ s.state)
    (hread : ∀ t a t' v, R v t → Step t a t' → ∃ v', fold apply v (emits t a) = .ok v' ∧ R v' t')
    (hrun : Steps (LoggedStep Step emits) s as s') : Projects apply v₀ R s' := by
  refine hrun.invariant (P := Projects apply v₀ R) ?_ (.init hlog h₀)
  intro t a t' h hs
  exact h.step hs fun v hr => hread _ a _ v hr hs.1

/-- The exact condition for a run to be projected with `P` in each of its states, next to a relation
`R` that every run keeps: after a state with `P`, an action keeps `P` if and only if it meets
`Q`. -/
theorem projects_iff {Q : σ → α → Prop} (hlog : s.log = []) (h₀ : R v₀ s.state) (hp₀ : P v₀ s.state)
    (hread : ∀ t a t' v, R v t → Step t a t' → ∃ v', fold apply v (emits t a) = .ok v' ∧ R v' t')
    (hiff : ∀ t a t' v v', R v t → P v t → Step t a t' → fold apply v (emits t a) = .ok v' →
      (P v' t' ↔ Q t a)) :
    (∀ pre post t, as = pre ++ post → Steps (LoggedStep Step emits) s pre t →
        Projects apply v₀ P t) ↔
      ∀ t a t', StepOf (LoggedStep Step emits) s as t a t' → Q t.state a := by
  refine Steps.stays_iff (I := Projects apply v₀ R) (.init hlog h₀) ?_ (.init hlog hp₀) ?_
  · intro t a t' h hs
    exact h.step hs fun v hr => hread _ a _ v hr hs.1
  · intro t a t' hR hP hs
    obtain ⟨v, hv, hr, hp⟩ := hR.and hP
    obtain ⟨v', hv', hr'⟩ := hread _ a _ v hr hs.1
    have hlog' : fold apply v₀ t'.log = .ok v' := by
      rw [hs.2, fold_append hv, hv']
    rw [← hiff _ a _ v v' hr hp hs.1 hv']
    constructor
    · rintro ⟨w, hw, hpw⟩
      rw [hlog'] at hw
      cases hw
      exact hpw
    · intro hpv
      exact ⟨v', hlog', hpv⟩

end

end EventLog
