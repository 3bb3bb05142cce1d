import Mathlib.Data.List.DropRight
import Mathlib.Tactic.Common

/-!
# `Rackline.Lib.Window`: a bounded log with a sliding window

A log keeps entries in the order of their times. What it should hold at `now` is what the window
holds of its last `n` entries: `within now width (l.rtake n)`.

A log that forgets what the window has passed can still be kept. Before an entry comes in, the
oldest makes room when there are `n`, and what the window at the new time has passed is dropped
afterwards (`within_push`). Dropping it from the front is enough (`dropWhile_eq_within`).
-/

set_option autoImplicit false

namespace Window

variable {α : Type} (time : α → Nat) {now now' width n : Nat} {l : List α}

/-- The entries stand in the order of their times. -/
def Chronological (l : List α) : Prop := l.Pairwise fun a b => time a ≤ time b

/-- The entries that are not older than `width` at `now`. -/
def within (now width : Nat) (l : List α) : List α := l.filter fun a => now ≤ time a + width

variable {time}

/-- An entry at the time of the last one or later. -/
theorem Chronological.push (h : Chronological time l) {a : α} (ha : ∀ b ∈ l, time b ≤ time a) :
    Chronological time (l ++ [a]) := by
  refine List.pairwise_append.mpr ⟨h, List.pairwise_singleton _ _, ?_⟩
  intro b hb c hc
  rw [List.mem_singleton.mp hc]
  exact ha b hb

theorem Chronological.rtake (h : Chronological time l) (n : Nat) :
    Chronological time (l.rtake n) :=
  h.sublist (List.drop_sublist _ _)

/-- The window reaches a suffix of a chronological log. -/
theorem dropWhile_eq_within (h : Chronological time l) :
    (l.dropWhile fun a => !decide (now ≤ time a + width)) = within time now width l := by
  induction l with
  | nil => rfl
  | cons a l ih =>
    obtain ⟨hfirst, hrest⟩ := List.pairwise_cons.mp h
    by_cases ha : now ≤ time a + width
    · have hall : within time now width (a :: l) = a :: l := by
        refine List.filter_eq_self.mpr fun b hb => ?_
        rcases List.mem_cons.mp hb with rfl | hb
        · simpa using ha
        · have := hfirst b hb
          simp only [decide_eq_true_eq]
          omega
      rw [hall]
      simp [ha]
    · have hdrop : within time now width (a :: l) = within time now width l := by
        simp [within, ha]
      rw [hdrop, ← ih hrest]
      simp [ha]

/-- A later window holds nothing that an earlier one has passed. -/
theorem within_within (hnow : now ≤ now') :
    within time now' width (within time now width l) = within time now' width l := by
  simp only [within, List.filter_filter]
  refine List.filter_congr fun a _ => ?_
  simp only [← Bool.decide_and, decide_eq_decide]
  omega

/-- One more of the last entries is either no more, since the log is short, or the oldest in
front. -/
theorem rtake_succ (l : List α) (n : Nat) :
    l.rtake (n + 1) = l.rtake n ∨ ∃ a, l.rtake (n + 1) = a :: l.rtake n := by
  unfold List.rtake
  by_cases hshort : l.length ≤ n
  · left
    rw [Nat.sub_eq_zero_of_le hshort, Nat.sub_eq_zero_of_le (by omega)]
  · right
    refine ⟨l[l.length - (n + 1)], ?_⟩
    have hnext : l.length - n = l.length - (n + 1) + 1 := by omega
    rw [hnext]
    exact List.drop_eq_getElem_cons (by omega)

/-- The log after one more entry, when at most `n` stay before it. -/
theorem within_push (h : Chronological time l) (hnow : now ≤ now') (a : α) :
    within time now' width
        ((if n < (within time now width (l.rtake (n + 1))).length then
          (within time now width (l.rtake (n + 1))).tail
        else within time now width (l.rtake (n + 1))) ++ [a]) =
      within time now' width ((l ++ [a]).rtake (n + 1)) := by
  have hkeep : within time now' width
      (if n < (within time now width (l.rtake (n + 1))).length then
        (within time now width (l.rtake (n + 1))).tail
      else within time now width (l.rtake (n + 1))) = within time now' width (l.rtake n) := by
    have hsorted := h.rtake (n + 1)
    rcases rtake_succ l n with hshort | ⟨oldest, hoff⟩
    · have hlength : (within time now width (l.rtake n)).length ≤ n :=
        (List.length_filter_le _ _).trans (by simp only [List.rtake, List.length_drop]; omega)
      rw [hshort, if_neg (by omega), within_within hnow]
    · rw [hoff] at hsorted ⊢
      by_cases hin : now ≤ time oldest + width
      · -- The window holds the oldest of the last entries, so it holds them all.
        have hall : within time now width (oldest :: l.rtake n) = oldest :: l.rtake n := by
          rw [← dropWhile_eq_within hsorted]
          simp [hin]
        have hlength : (l.rtake n).length = n := by
          have hlong := congrArg List.length hoff
          simp only [List.rtake, List.length_cons, List.length_drop] at hlong ⊢
          omega
        rw [hall, if_pos (by rw [List.length_cons]; omega), List.tail_cons]
      · have hpassed : within time now width (oldest :: l.rtake n) =
            within time now width (l.rtake n) := by
          simp [within, hin]
        have hlength : (within time now width (l.rtake n)).length ≤ n :=
          (List.length_filter_le _ _).trans (by simp only [List.rtake, List.length_drop]; omega)
        rw [hpassed, if_neg (by omega), within_within hnow]
  rw [List.rtake_concat_succ]
  unfold within at hkeep ⊢
  rw [List.filter_append, List.filter_append, hkeep]

end Window
