import Mathlib.Init

/-!
# `Rackline.Lib.Transition`: runs of a transition system

A system is a relation `Step s a s'`: from the state `s`, the action `a` can end in `s'`.
`Steps` is the run of a list of actions. `Reachable` is the set of states some run from an
initial state ends in.

The rules below are the only inductions on runs in the development: an invariant that holds
initially and survives one step holds in every reachable state, and a run decomposes at
each of its actions.
-/

set_option autoImplicit false

namespace Transition

variable {σ α : Type}

/-- The runs of `Step`: `Steps Step s as s'` performs the actions `as` in order. -/
inductive Steps (Step : σ → α → σ → Prop) : σ → List α → σ → Prop
  | nil (s : σ) : Steps Step s [] s
  | cons {s t u : σ} {a : α} {as : List α} :
      Step s a t → Steps Step t as u → Steps Step s (a :: as) u

/-- `a` takes `s` to `s'` somewhere in the run of `as` from `s₀`. -/
def StepOf (Step : σ → α → σ → Prop) (s₀ : σ) (as : List α) (s : σ) (a : α) (s' : σ) : Prop :=
  ∃ pre post, as = pre ++ a :: post ∧ Steps Step s₀ pre s ∧ Step s a s'

/-- The states reached from an initial state. -/
def Reachable (Init : σ → Prop) (Step : σ → α → σ → Prop) (s : σ) : Prop :=
  ∃ s₀ as, Init s₀ ∧ Steps Step s₀ as s

variable {Init : σ → Prop} {Step : σ → α → σ → Prop}

/-- A property that every step keeps is kept by every run. -/
theorem Steps.invariant {P : σ → Prop} (hstep : ∀ s a s', P s → Step s a s' → P s')
    {s s' : σ} {as : List α} (hrun : Steps Step s as s') (h : P s) : P s' := by
  induction hrun with
  | nil => exact h
  | cons hs _ ih => exact ih (hstep _ _ _ h hs)

/-- A reflexive, transitive relation that every step from a good state respects relates the
two ends of every run from a good state. -/
theorem Steps.related {P : σ → Prop} {R : σ → σ → Prop}
    (hstep : ∀ s a s', P s → Step s a s' → P s') (hrefl : ∀ s, R s s)
    (htrans : ∀ {s t u}, R s t → R t u → R s u) (hrel : ∀ s a s', P s → Step s a s' → R s s')
    {s s' : σ} {as : List α} (hrun : Steps Step s as s') (h : P s) : R s s' := by
  induction hrun with
  | nil => exact hrefl _
  | cons hs _ ih => exact htrans (hrel _ _ _ h hs) (ih (hstep _ _ _ h hs))

theorem Steps.append {s t u : σ} {as bs : List α} (h₁ : Steps Step s as t)
    (h₂ : Steps Step t bs u) : Steps Step s (as ++ bs) u := by
  induction h₁ with
  | nil => exact h₂
  | cons hs _ ih => exact .cons hs (ih h₂)

/-- A run of a system is a run of every system that allows its steps. -/
theorem Steps.mono {Step' : σ → α → σ → Prop} (hstep : ∀ s a s', Step s a s' → Step' s a s')
    {s s' : σ} {as : List α} (hrun : Steps Step s as s') : Steps Step' s as s' := by
  induction hrun with
  | nil => exact .nil _
  | cons hs _ ih => exact .cons (hstep _ _ _ hs) ih

/-- A run whose actions all meet a condition is a run of the restricted system. -/
theorem Steps.restrict {Q : σ → α → Prop} {s s' : σ} {as : List α} (hrun : Steps Step s as s')
    (hall : ∀ a ∈ as, ∀ s, Q s a) : Steps (fun s a s' => Q s a ∧ Step s a s') s as s' := by
  induction hrun with
  | nil => exact .nil _
  | cons hs _ ih =>
    exact .cons ⟨hall _ List.mem_cons_self _, hs⟩ (ih fun a ha => hall a (List.mem_cons_of_mem _ ha))

/-- A run of one action. -/
theorem Steps.single {s t : σ} {a : α} (h : Step s a t) : Steps Step s [a] t :=
  .cons h (.nil t)

theorem Steps.snoc {s t u : σ} {a : α} {as : List α} (h : Steps Step s as t) (hs : Step t a u) :
    Steps Step s (as ++ [a]) u :=
  h.append (.single hs)

/-- The steps of a stretch of a longer run are steps of that run. -/
theorem Steps.located {Step' : σ → α → σ → Prop} (hmono : ∀ s a s', Step' s a s' → Step s a s')
    {s₀ s t : σ} {as : List α} (post : List α) (hrun : Steps Step' s as t) :
    ∀ {pre : List α}, Steps Step s₀ pre s →
      Steps (fun s a s' => Step' s a s' ∧ StepOf Step s₀ (pre ++ (as ++ post)) s a s') s as t := by
  induction hrun with
  | nil => exact fun _ => .nil _
  | @cons s t u a as hs _ ih =>
    intro pre hpre
    refine .cons ⟨hs, pre, as ++ post, rfl, hpre, hmono _ _ _ hs⟩ ?_
    have hrest := ih (hpre.snoc (hmono _ _ _ hs))
    rwa [List.append_assoc, List.singleton_append] at hrest

/-- The history rule: a property of the actions made so far and the state they led to, when it
holds at the start and survives one more action, holds after every run. -/
theorem Steps.history {P : List α → σ → Prop} {s₀ : σ} (hstart : P [] s₀)
    (hstep : ∀ as s a s', Steps Step s₀ as s → P as s → Step s a s' → P (as ++ [a]) s')
    {as : List α} {s : σ} (h : Steps Step s₀ as s) : P as s := by
  have hgen : ∀ {s t : σ} {bs : List α}, Steps Step s bs t →
      ∀ as, Steps Step s₀ as s → P as s → P (as ++ bs) t := by
    intro s t bs hrun
    induction hrun with
    | nil =>
      intro as _ hp
      rwa [List.append_nil]
    | @cons s t u a bs hs _ ih =>
      intro as hpre hp
      have hnext := ih (as ++ [a]) (hpre.snoc hs) (hstep as s a t hpre hp hs)
      rwa [List.append_assoc, List.singleton_append] at hnext
  have := hgen h [] (.nil s₀) hstart
  rwa [List.nil_append] at this

/-- The exact condition for a property `P` to hold all along a run, when `P` is not inductive: `K`
is inductive as long as the actions meet `Q`, it implies `P`, and an action that does not meet `Q`
breaks `P`. Then the states of a run have `P` if and only if its actions meet `Q`. -/
theorem Steps.holds_iff {K P : σ → Prop} {Q : σ → α → Prop} {s₀ : σ} {as : List α} (h₀ : K s₀)
    (hP : ∀ s, K s → P s) (hneed : ∀ s a s', K s → Step s a s' → P s' → Q s a)
    (hkeep : ∀ s a s', K s → Q s a → Step s a s' → K s') :
    (∀ pre post s, as = pre ++ post → Steps Step s₀ pre s → P s) ↔
      ∀ s a s', StepOf Step s₀ as s a s' → Q s a := by
  constructor
  · intro hall
    -- Up to any point of the run, no action has left `K`.
    have hK : ∀ {pre s}, Steps Step s₀ pre s → ∀ post, as = pre ++ post → K s := by
      intro pre s hpre
      refine Steps.history (P := fun pre s => ∀ post, as = pre ++ post → K s) (fun _ _ => h₀) ?_ hpre
      intro pre s a s' hpre ih hs post heq
      have hs₀ := ih (a :: post) (by simpa using heq)
      exact hkeep s a s' hs₀ (hneed s a s' hs₀ hs (hall _ post s' heq (hpre.snoc hs))) hs
    rintro s a s' ⟨pre, post, heq, hpre, hs⟩
    exact hneed s a s' (hK hpre _ heq) hs (hall (pre ++ [a]) post s' (by simp [heq]) (hpre.snoc hs))
  · intro hall pre post s heq hpre
    refine hP s (Steps.history (P := fun pre s => ∀ post, as = pre ++ post → K s) (fun _ _ => h₀) ?_
      hpre post heq)
    intro pre s a s' hpre ih hs post heq
    have hcut : as = pre ++ a :: post := by simpa using heq
    exact hkeep s a s' (ih _ hcut) (hall s a s' ⟨pre, post, hcut, hpre, hs⟩) hs

/-- `holds_iff` for a property that is inductive next to an invariant `I` of every run. -/
theorem Steps.stays_iff {I P : σ → Prop} {Q : σ → α → Prop} {s₀ : σ} {as : List α} (hI : I s₀)
    (hkeep : ∀ s a s', I s → Step s a s' → I s') (hP : P s₀)
    (hstep : ∀ s a s', I s → P s → Step s a s' → (P s' ↔ Q s a)) :
    (∀ pre post s, as = pre ++ post → Steps Step s₀ pre s → P s) ↔
      ∀ s a s', StepOf Step s₀ as s a s' → Q s a :=
  Steps.holds_iff (K := fun s => I s ∧ P s) ⟨hI, hP⟩ (fun _ h => h.2)
    (fun s a s' h hs hp => (hstep s a s' h.1 h.2 hs).mp hp)
    fun s a s' h hq hs => ⟨hkeep s a s' h.1 hs, (hstep s a s' h.1 h.2 hs).mpr hq⟩

theorem StepOf.step {s₀ s s' : σ} {as : List α} {a : α} (h : StepOf Step s₀ as s a s') :
    Step s a s' := by
  obtain ⟨_, _, -, -, hstep⟩ := h
  exact hstep

/-- A step of a run is a step of every longer run. -/
theorem StepOf.snoc {s₀ s s' : σ} {as : List α} {a : α} (h : StepOf Step s₀ as s a s') (b : α) :
    StepOf Step s₀ (as ++ [b]) s a s' := by
  obtain ⟨pre, post, rfl, hpre, hstep⟩ := h
  exact ⟨pre, post ++ [b], by simp, hpre, hstep⟩

/-- The last step of a run. -/
theorem Steps.lastStepOf {s₀ s s' : σ} {as : List α} {a : α} (h : Steps Step s₀ as s)
    (hs : Step s a s') : StepOf Step s₀ (as ++ [a]) s a s' :=
  ⟨as, [], rfl, h, hs⟩

/-- What does not hold at the start of a run and holds at its end begins to hold at one of its steps. -/
theorem Steps.turns {P : σ → Prop} {s₀ s : σ} {as : List α} (h : Steps Step s₀ as s) (hstart : ¬P s₀)
    (hend : P s) : ∃ t a t', StepOf Step s₀ as t a t' ∧ ¬P t ∧ P t' := by
  induction h with
  | nil => exact absurd hend hstart
  | @cons s t u b bs hs _ ih =>
    by_cases ht : P t
    · exact ⟨s, b, t, ⟨[], bs, rfl, .nil s, hs⟩, hstart, ht⟩
    · obtain ⟨v, c, v', ⟨pre, post, rfl, hpre, hstep⟩, hbefore, hafter⟩ := ih ht hend
      exact ⟨v, c, v', ⟨b :: pre, post, rfl, .cons hs hpre, hstep⟩, hbefore, hafter⟩

/-- Every action of a run is made at one of its steps. -/
theorem Steps.stepOf_of_mem {s₀ s : σ} {as : List α} {a : α} (h : Steps Step s₀ as s)
    (ha : a ∈ as) : ∃ t t', StepOf Step s₀ as t a t' := by
  induction h with
  | nil => cases ha
  | @cons s t u b bs hs _ ih =>
    obtain rfl | ha := List.mem_cons.mp ha
    · exact ⟨s, t, [], bs, rfl, .nil s, hs⟩
    · obtain ⟨v, v', pre, post, hcut, hpre, hstep⟩ := ih ha
      exact ⟨v, v', b :: pre, post, by rw [hcut, List.cons_append], .cons hs hpre, hstep⟩

/-- A condition on the actions alone is a condition on the steps. -/
theorem Steps.forall_stepOf_iff {Q : α → Prop} {s₀ s : σ} {as : List α} (h : Steps Step s₀ as s) :
    (∀ t a t', StepOf Step s₀ as t a t' → Q a) ↔ ∀ a ∈ as, Q a := by
  constructor
  · intro hall a ha
    obtain ⟨t, t', hof⟩ := h.stepOf_of_mem ha
    exact hall t a t' hof
  · rintro hall t a t' ⟨pre, post, rfl, -, -⟩
    exact hall a (List.mem_append_right pre List.mem_cons_self)

/-- The exact condition for the steps of a run to have a property `L` of steps: `K` holds as long as
the steps have `L`, and next to `K` a step has `L` if and only if its action meets `Q`. -/
theorem Steps.steps_iff {K : σ → Prop} {L : σ → σ → Prop} {Q : σ → α → Prop} {s₀ : σ} {as : List α}
    (h₀ : K s₀) (hiff : ∀ s a s', K s → Step s a s' → (L s s' ↔ Q s a))
    (hkeep : ∀ s a s', K s → Step s a s' → L s s' → K s') :
    (∀ s a s', StepOf Step s₀ as s a s' → L s s') ↔ ∀ s a s', StepOf Step s₀ as s a s' → Q s a := by
  -- Up to any point of a run whose steps have `L`, they have not left `K`.
  have hK : (∀ s a s', StepOf Step s₀ as s a s' → K s → L s s') →
      ∀ {pre s}, Steps Step s₀ pre s → ∀ post, as = pre ++ post → K s := by
    intro hL pre s hpre
    refine Steps.history (P := fun pre s => ∀ post, as = pre ++ post → K s) (fun _ _ => h₀) ?_ hpre
    intro pre s a s' hpre ih hs post heq
    have hcut : as = pre ++ a :: post := by simpa using heq
    have hs₀ := ih _ hcut
    exact hkeep s a s' hs₀ hs (hL s a s' ⟨pre, post, hcut, hpre, hs⟩ hs₀)
  constructor
  · intro hall s a s' hof
    obtain ⟨pre, post, heq, hpre, hs⟩ := id hof
    have hs₀ := hK (fun s a s' h _ => hall s a s' h) hpre _ heq
    exact (hiff s a s' hs₀ hs).mp (hall s a s' hof)
  · intro hall s a s' hof
    obtain ⟨pre, post, heq, hpre, hs⟩ := id hof
    have hs₀ := hK (fun s a s' h h₀ => (hiff s a s' h₀ h.step).mpr (hall s a s' h)) hpre _ heq
    exact (hiff s a s' hs₀ hs).mpr (hall s a s' hof)

/-- The invariant rule: what holds initially and survives a step holds in every reachable
state. -/
theorem Reachable.invariant {P : σ → Prop} (hinit : ∀ s, Init s → P s)
    (hstep : ∀ s a s', P s → Step s a s' → P s') {s : σ} (h : Reachable Init Step s) : P s := by
  obtain ⟨s₀, as, h₀, hrun⟩ := h
  exact hrun.invariant hstep (hinit _ h₀)

theorem Reachable.init {s : σ} (h : Init s) : Reachable Init Step s := ⟨s, [], h, .nil s⟩

/-- The states before the steps of a run are reachable. -/
theorem StepOf.reachable {s₀ s s' : σ} {as : List α} {a : α} (h : StepOf Step s₀ as s a s')
    (h₀ : Init s₀) : Reachable Init Step s := by
  obtain ⟨pre, _, -, hpre, -⟩ := h
  exact ⟨s₀, pre, h₀, hpre⟩

theorem Reachable.steps {s t : σ} {as : List α} (h : Reachable Init Step s)
    (hrun : Steps Step s as t) : Reachable Init Step t := by
  obtain ⟨s₀, bs, h₀, h'⟩ := h
  exact ⟨s₀, bs ++ as, h₀, h'.append hrun⟩

theorem Reachable.mono {Step' : σ → α → σ → Prop} (hstep : ∀ s a s', Step s a s' → Step' s a s')
    {s : σ} (h : Reachable Init Step s) : Reachable Init Step' s := by
  obtain ⟨s₀, as, h₀, hrun⟩ := h
  exact ⟨s₀, as, h₀, hrun.mono hstep⟩

theorem Reachable.step {s t : σ} {a : α} (h : Reachable Init Step s) (hs : Step s a t) :
    Reachable Init Step t :=
  h.steps (.single hs)

/-! ### Tallies -/

/-- What `f` counts at the steps of the run of `next`, up to the first action it refuses. -/
def tally (next : σ → α → Option σ) (f : σ → α → σ → Nat) (s : σ) : List α → Nat
  | [] => 0
  | a :: as =>
    match next s a with
    | none => 0
    | some t => f s a t + tally next f t as

/-- Telescoping: a quantity that every step raises by what `f` counts has risen by the tally. -/
theorem Steps.tally_eq {next : σ → α → Option σ} {f : σ → α → σ → Nat} {I : σ → Prop}
    {Φ : σ → Nat} (hnext : ∀ s a t, Step s a t → next s a = some t)
    (hkeep : ∀ s a t, I s → Step s a t → I t)
    (hrise : ∀ s a t, I s → Step s a t → Φ t = Φ s + f s a t) {s t : σ} {as : List α}
    (hrun : Steps Step s as t) (h : I s) : Φ t = Φ s + tally next f s as := by
  induction hrun with
  | nil => rfl
  | @cons s t u a as hs _ ih =>
    have hrest := ih (hkeep s a t h hs)
    rw [hrise s a t h hs] at hrest
    have htally : tally next f s (a :: as) = f s a t + tally next f t as := by
      simp only [tally, hnext s a t hs]
    rw [htally]
    omega

end Transition
