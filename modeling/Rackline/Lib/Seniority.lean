import Mathlib.Algebra.GroupWithZero.Nat
import Mathlib.Data.List.Nodup
import Mathlib.Logic.Function.Basic

/-!
# `Rackline.Lib.Seniority`: paying claims in order, each up to a target

A list of claims, the most senior first, is paid out of one amount. Each claim has a target for
what its key has been paid in total, over this payment and all earlier ones. `pays` is the list of
the payments: a claim that has reached its target is passed over, and the others take what they
still lack, until nothing is left.

The rules: the payments and what is left add up to the amount; a key is paid up to the target of
one of its claims and not past it; and a key is paid only if every claim before its own has
reached its target.
-/

set_option autoImplicit false

namespace Seniority

variable {κ : Type}

/-- A claim: who is paid, and up to what. -/
structure Claim (κ : Type) where
  key : κ
  target : Nat

/-- What a claim takes of `remaining`, when its key has been paid `paid`. -/
def take (target paid remaining : Nat) : Nat :=
  if target - paid > remaining then remaining else target - paid

/-- All that a list of payments pays. -/
def total (l : List (κ × Nat)) : Nat := (l.map (·.2)).sum

theorem total_cons (p : κ × Nat) (l : List (κ × Nat)) : total (p :: l) = p.2 + total l := by
  simp [total]

variable [DecidableEq κ]

/-- The payments out of `remaining`, when `paid` is what every key has been paid before. -/
def pays : List (Claim κ) → Nat → (κ → Nat) → List (κ × Nat)
  | [], _, _ => []
  | c :: rest, remaining, paid =>
    if remaining = 0 then []
    else if paid c.key ≥ c.target then pays rest remaining paid
    else
      let part := take c.target (paid c.key) remaining
      (c.key, part) ::
        pays rest (remaining - part) (Function.update paid c.key (paid c.key + part))

/-- What a list of payments pays to `k`. -/
def paidTo (k : κ) (l : List (κ × Nat)) : Nat :=
  (l.map fun p => if p.1 = k then p.2 else 0).sum

theorem paidTo_cons (k : κ) (p : κ × Nat) (l : List (κ × Nat)) :
    paidTo k (p :: l) = (if p.1 = k then p.2 else 0) + paidTo k l := by
  simp [paidTo]

theorem take_le_remaining (target paid remaining : Nat) :
    take target paid remaining ≤ remaining := by
  unfold take
  split <;> omega

theorem take_le_target {target paid : Nat} (h : paid < target) (remaining : Nat) :
    paid + take target paid remaining ≤ target := by
  unfold take
  split <;> omega

/-- A claim that leaves something over has reached its target. -/
theorem take_reaches {target paid remaining : Nat} (h : paid < target)
    (hleft : remaining - take target paid remaining ≠ 0) :
    paid + take target paid remaining = target := by
  unfold take at hleft ⊢
  by_cases hroom : target - paid > remaining
  · rw [if_pos hroom] at hleft
    omega
  · rw [if_neg hroom]
    omega

/-- Nothing is paid out of nothing. -/
theorem pays_zero (l : List (Claim κ)) (paid : κ → Nat) : pays l 0 paid = [] := by
  cases l with
  | nil => rfl
  | cons c rest => exact if_pos rfl

/-- The payments are within the amount. -/
theorem total_pays_le : ∀ (l : List (Claim κ)) (remaining : Nat) (paid : κ → Nat),
    total (pays l remaining paid) ≤ remaining := by
  intro l
  induction l with
  | nil => exact fun _ _ => Nat.zero_le _
  | cons c rest ih =>
    intro remaining paid
    unfold pays
    split
    · exact Nat.zero_le _
    split
    · exact ih remaining paid
    · dsimp only
      rw [total_cons]
      have htake := take_le_remaining c.target (paid c.key) remaining
      have hrest := ih (remaining - take c.target (paid c.key) remaining)
        (Function.update paid c.key (paid c.key + take c.target (paid c.key) remaining))
      omega

/-- A key is paid nothing, or it is paid up to the target of one of its claims at most. -/
theorem paid_le_target (k : κ) : ∀ (l : List (Claim κ)) (remaining : Nat) (paid : κ → Nat),
    paidTo k (pays l remaining paid) = 0 ∨
      ∃ c ∈ l, c.key = k ∧ paid k + paidTo k (pays l remaining paid) ≤ c.target := by
  intro l
  induction l with
  | nil => exact fun _ _ => .inl rfl
  | cons c rest ih =>
    intro remaining paid
    unfold pays
    split
    · exact .inl rfl
    split
    · obtain hnone | ⟨d, hd, hkey, hle⟩ := ih remaining paid
      · exact .inl hnone
      · exact .inr ⟨d, List.mem_cons_of_mem c hd, hkey, hle⟩
    · rename_i hlt
      dsimp only
      rw [paidTo_cons]
      have hrest := ih (remaining - take c.target (paid c.key) remaining)
        (Function.update paid c.key (paid c.key + take c.target (paid c.key) remaining))
      by_cases hk : c.key = k
      · subst hk
        rw [if_pos rfl]
        rw [Function.update_self] at hrest
        have htarget := take_le_target (Nat.lt_of_not_le hlt) remaining
        obtain hnone | ⟨d, hd, hkey, hle⟩ := hrest
        · exact .inr ⟨c, List.mem_cons_self, rfl, by omega⟩
        · exact .inr ⟨d, List.mem_cons_of_mem c hd, hkey, by omega⟩
      · rw [if_neg hk, Nat.zero_add]
        rw [Function.update_of_ne (Ne.symm hk)] at hrest
        obtain hnone | ⟨d, hd, hkey, hle⟩ := hrest
        · exact .inl hnone
        · exact .inr ⟨d, List.mem_cons_of_mem c hd, hkey, hle⟩

/-- Seniority: with one claim a key, a key is paid only if all claims before its own have reached
their targets. -/
theorem senior_reached {c : Claim κ} {post : List (Claim κ)} :
    ∀ (pre : List (Claim κ)) (remaining : Nat) (paid : κ → Nat),
      ((pre ++ c :: post).map (·.key)).Nodup →
      paidTo c.key (pays (pre ++ c :: post) remaining paid) ≠ 0 →
      ∀ d ∈ pre, d.target ≤
        paid d.key + paidTo d.key (pays (pre ++ c :: post) remaining paid) := by
  intro pre
  induction pre with
  | nil => exact fun _ _ _ _ d hd => absurd hd List.not_mem_nil
  | cons e rest ih =>
    intro remaining paid hnodup hpaid d hd
    rw [List.cons_append, List.map_cons, List.nodup_cons] at hnodup
    obtain ⟨hfresh, hnodup⟩ := hnodup
    rw [List.cons_append] at hpaid ⊢
    unfold pays at hpaid ⊢
    split at hpaid
    · exact absurd rfl hpaid
    rename_i hsome
    rw [if_neg hsome]
    split at hpaid
    · -- The first claim has its target already.
      rename_i hreached
      rw [if_pos hreached]
      obtain rfl | hd := List.mem_cons.mp hd
      · exact Nat.le_trans hreached (Nat.le_add_right _ _)
      · exact ih remaining paid hnodup hpaid d hd
    · rename_i hlt
      rw [if_neg hlt]
      dsimp only at hpaid ⊢
      have hne : ∀ {k}, k ∈ (rest ++ c :: post).map (·.key) → e.key ≠ k := by
        intro k hk heq
        exact hfresh (heq ▸ hk)
      have hc : e.key ≠ c.key := hne (by simp)
      rw [paidTo_cons, if_neg hc, Nat.zero_add] at hpaid
      -- Something was left for the claims after it, so it has reached its target.
      have hleft : remaining - take e.target (paid e.key) remaining ≠ 0 := by
        intro hzero
        rw [hzero, pays_zero] at hpaid
        exact hpaid rfl
      rw [paidTo_cons]
      obtain rfl | hd := List.mem_cons.mp hd
      · rw [if_pos rfl]
        have hreaches := take_reaches (Nat.lt_of_not_le hlt) hleft
        omega
      · have hd' : e.key ≠ d.key :=
          hne (List.mem_map_of_mem (List.mem_append_left _ hd))
        rw [if_neg hd', Nat.zero_add]
        have hrest := ih _ _ hnodup hpaid d hd
        rwa [Function.update_of_ne (Ne.symm hd')] at hrest

end Seniority
