import Mathlib.Data.List.Induction
import Mathlib.Data.List.Perm.Subperm
import Mathlib.Tactic.Common

/-!
# `Rackline.Lib.Replay`: replaying a log

A machine that reads a log event by event, and may refuse an event, is a function
`apply : σ → ε → Option σ`. `replay` is its run over a whole log. A log that replays to the end
replays up to each of its events, and each event is accepted where it stands: this is what a second
machine that follows the same log relies on.

`perm_of_received` is the counting argument of a receiver: events received without repetition, all
of them sent, are all the events that were sent as soon as they are as many.
-/

set_option autoImplicit false

namespace Replay

variable {σ ε : Type}

/-- The state after the events of `l`, if every one of them is accepted. -/
def replay (apply : σ → ε → Option σ) (s : σ) (l : List ε) : Option σ := l.foldlM apply s

variable {apply : σ → ε → Option σ} {s u : σ} {l p q : List ε}

@[simp]
theorem replay_nil : replay apply s [] = some s := rfl

theorem replay_append : replay apply s (p ++ q) = (replay apply s p).bind (replay apply · q) := by
  unfold replay
  rw [List.foldlM_append]
  rfl

theorem replay_snoc (e : ε) : replay apply s (p ++ [e]) = (replay apply s p).bind (apply · e) := by
  rw [replay_append]
  congr 1
  funext v
  show List.foldlM apply v [e] = apply v e
  simp

/-- One more event. -/
theorem replay_snoc_eq_some {e : ε} {w : σ} :
    replay apply s (p ++ [e]) = some w ↔ ∃ v, replay apply s p = some v ∧ apply v e = some w := by
  rw [replay_snoc, Option.bind_eq_some_iff]

/-- An event of a log that replays is accepted where it stands. -/
theorem replay_at {e : ε} (h : replay apply s (p ++ e :: q) = some u) :
    ∃ v w, replay apply s p = some v ∧ apply v e = some w := by
  rw [List.append_cons, replay_append, Option.bind_eq_some_iff] at h
  obtain ⟨w, hw, -⟩ := h
  obtain ⟨v, hv, he⟩ := replay_snoc_eq_some.mp hw
  exact ⟨v, w, hv, he⟩

/-- The rule of a replay: what holds of the empty log and of the first state, and survives one
more accepted event, holds of every log that replays and of its last state. -/
theorem replay_rule {P : List ε → σ → Prop} (hstart : P [] s)
    (hstep : ∀ l v e w, P l v → apply v e = some w → P (l ++ [e]) w)
    (h : replay apply s l = some u) : P l u := by
  induction l using List.reverseRecOn generalizing u with
  | nil =>
    rw [replay_nil] at h
    cases h
    exact hstart
  | append_singleton l e ih =>
    obtain ⟨v, hv, he⟩ := replay_snoc_eq_some.mp h
    exact hstep l v e u (ih hv) he

/-- What was received once each, was sent, and is as much as was sent, is what was sent. -/
theorem perm_of_received {received sent : List ε} (hnodup : received.Nodup)
    (hsent : received ⊆ sent) (hcount : sent.length ≤ received.length) : received.Perm sent :=
  (hnodup.subperm hsent).perm_of_length_le hcount

end Replay
