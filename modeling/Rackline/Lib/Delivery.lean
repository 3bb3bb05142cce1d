import Mathlib.Data.List.Induction
import Mathlib.Data.List.Nodup

/-!
# `Rackline.Lib.Delivery`: messages that arrive early and again

Messages have an order, and a receiver takes them one by one. They can arrive in any order and any
number of times before they are all sent once more in their order. Where the receiver passes over a
message that it has taken, the early arrivals leave no trace as long as each message arrives in
turn: after all the messages before it.
-/

set_option autoImplicit false

namespace Delivery

variable {σ μ : Type} {deliver : σ → μ → σ} {s : σ} {ms arrivals early : List μ} {m : μ}

/-- Each message arrives when all those before it have arrived. -/
def InTurn (ms arrivals : List μ) : Prop :=
  ∀ early m late, arrivals = early ++ m :: late →
    ∀ before after, ms = before ++ m :: after → ∀ q ∈ before, q ∈ early

/-- A message that is among the first ones changes nothing once they are taken. -/
def PassesOver (deliver : σ → μ → σ) (s : σ) (ms : List μ) : Prop :=
  ∀ taken left, ms = taken ++ left → ∀ m ∈ taken,
    deliver (taken.foldl deliver s) m = taken.foldl deliver s

theorem InTurn.nil : InTurn ms [] := by
  intro early m late h
  simp at h

theorem inTurn_snoc_iff : InTurn ms (arrivals ++ [m]) ↔ InTurn ms arrivals ∧
    ∀ before after, ms = before ++ m :: after → ∀ q ∈ before, q ∈ arrivals := by
  constructor
  · intro h
    refine ⟨?_, h arrivals m [] rfl⟩
    intro early q late hcut
    exact h early q (late ++ [m]) (by simp [hcut])
  · rintro ⟨hturn, hlast⟩ early q late hcut
    rcases List.eq_nil_or_concat late with rfl | ⟨late', x, rfl⟩
    · obtain ⟨rfl, hq⟩ := List.append_inj' hcut rfl
      cases hq
      exact hlast
    · rw [List.concat_eq_append, ← List.cons_append, ← List.append_assoc] at hcut
      obtain ⟨hcut, -⟩ := List.append_inj' hcut rfl
      exact hturn early q late' hcut

/-- Arrivals in turn leave what the first messages leave, taken once in their order. -/
theorem InTurn.taken (h : InTurn ms arrivals) (hnodup : ms.Nodup) (hmem : ∀ m ∈ arrivals, m ∈ ms)
    (hpass : PassesOver deliver s ms) :
    ∃ taken left, ms = taken ++ left ∧ arrivals.foldl deliver s = taken.foldl deliver s ∧
      ∀ m, m ∈ taken ↔ m ∈ arrivals := by
  induction arrivals using List.reverseRecOn with
  | nil => exact ⟨[], ms, rfl, rfl, fun _ => Iff.rfl⟩
  | append_singleton arrivals m ih =>
    obtain ⟨hturn, hlast⟩ := inTurn_snoc_iff.mp h
    obtain ⟨taken, left, hcut, hstate, hsame⟩ :=
      ih hturn fun q hq => hmem q (List.mem_append_left _ hq)
    rw [List.foldl_append, hstate]
    show ∃ taken' left', _ ∧ deliver (taken.foldl deliver s) m = _ ∧ _
    by_cases hm : m ∈ taken
    · -- It arrives again.
      refine ⟨taken, left, hcut, hpass taken left hcut m hm, fun q => ?_⟩
      have hmArrived := (hsame m).mp hm
      rw [hsame, List.mem_append, List.mem_singleton]
      exact ⟨.inl, fun hq => hq.elim id (· ▸ hmArrived)⟩
    · -- It arrives for the first time, so it is the next one.
      have hleft : m ∈ left := by
        have := hmem m (List.mem_append_right _ (List.mem_singleton_self m))
        rw [hcut, List.mem_append] at this
        exact this.resolve_left hm
      cases left with
      | nil => cases hleft
      | cons next rest =>
        have hnext : m = next := by
          by_contra hne
          obtain ⟨between, after, hrest⟩ :=
            List.append_of_mem ((List.mem_cons.mp hleft).resolve_left hne)
          have hbefore := hlast (taken ++ next :: between) after (by simp [hcut, hrest])
          have hagain : next ∈ taken := (hsame next).mpr (hbefore next (by simp))
          rw [hcut] at hnodup
          exact (List.disjoint_of_nodup_append hnodup) hagain (List.mem_cons_self ..)
        subst hnext
        refine ⟨taken ++ [m], rest, by simp [hcut], by simp, fun q => ?_⟩
        rw [List.mem_append, List.mem_append, hsame]

/-- The messages sent once more in their order leave what they leave when they are sent once. -/
theorem InTurn.sent_again (h : InTurn ms arrivals) (hnodup : ms.Nodup)
    (hmem : ∀ m ∈ arrivals, m ∈ ms) (hpass : PassesOver deliver s ms) :
    (arrivals ++ ms).foldl deliver s = ms.foldl deliver s := by
  obtain ⟨taken, left, hcut, hstate, -⟩ := h.taken hnodup hmem hpass
  have hagain : ∀ l : List μ, (∀ m ∈ l, m ∈ taken) →
      l.foldl deliver (taken.foldl deliver s) = taken.foldl deliver s := by
    intro l hl
    induction l with
    | nil => rfl
    | cons m l ih =>
      rw [List.foldl_cons, hpass taken left hcut m (hl m (List.mem_cons_self ..))]
      exact ih fun q hq => hl q (List.mem_cons_of_mem m hq)
  rw [List.foldl_append, hstate, hcut, List.foldl_append, hagain taken fun m hm => hm,
    ← List.foldl_append]

/-- Where some message arrives early, there is a first one. -/
theorem exists_first_early (h : ¬InTurn ms arrivals) :
    ∃ early m late before after q, arrivals = early ++ m :: late ∧ InTurn ms early ∧
      ms = before ++ m :: after ∧ q ∈ before ∧ q ∉ early := by
  induction arrivals using List.reverseRecOn with
  | nil => exact absurd InTurn.nil h
  | append_singleton arrivals m ih =>
    by_cases hturn : InTurn ms arrivals
    · rw [inTurn_snoc_iff] at h
      push Not at h
      obtain ⟨before, after, hcut, q, hq, hmissing⟩ := h hturn
      exact ⟨arrivals, m, [], before, after, q, rfl, hturn, hcut, hq, hmissing⟩
    · obtain ⟨early, m', late, before, after, q, hcut, hrest⟩ := ih hturn
      exact ⟨early, m', late ++ [m], before, after, q, by simp [hcut], hrest⟩

/-- Where a receiver took the first of the messages, the earliest one that it did not take is the next
one. -/
theorem find?_missing [DecidableEq μ] {taken left all : List μ} (hcut : ms = taken ++ left)
    (hnodup : ms.Nodup) (hsame : ∀ m ∈ ms, m ∈ all ↔ m ∈ taken) :
    ms.find? (fun m => decide (m ∉ all)) = left.head? := by
  subst hcut
  have htaken : taken.find? (fun m => decide (m ∉ all)) = none := by
    refine List.find?_eq_none.mpr fun m hm => ?_
    simp [(hsame m (List.mem_append_left _ hm)).mpr hm]
  rw [List.find?_append, htaken, Option.none_or]
  cases left with
  | nil => rfl
  | cons m left =>
    have hm : m ∉ all := by
      rw [hsame m (by simp)]
      exact fun htaken => (List.disjoint_of_nodup_append hnodup) htaken List.mem_cons_self
    simp [hm]

end Delivery
