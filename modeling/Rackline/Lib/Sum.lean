import Mathlib.Algebra.BigOperators.Group.Finset.Basic
import Mathlib.Algebra.BigOperators.Ring.Finset
import Mathlib.Algebra.Order.BigOperators.Group.Finset
import Mathlib.Tactic.Ring
import Mathlib.Tactic.Linarith

/-!
# `Rackline.Lib.Sum`: running totals over a mapping

A contract keeps a total next to a mapping and updates the two separately. These lemmas say
what one write to the mapping does to the sum of its values. They are stated with additions
on both sides, so that no side condition about truncated subtraction is left to a proof.

The last lemma is the rounding rule of a pro-rata split: the floors of the shares of an
amount never add up to more than the amount.
-/

set_option autoImplicit false

namespace Total

open Finset

variable {ι : Type} {f g : ι → Nat}

/-- Two families that agree away from `i` have the same total up to their entries at `i`. -/
theorem sum_add_eq {s : Finset ι} {i : ι} (hi : i ∈ s) (h : ∀ j, j ≠ i → g j = f j) :
    ∑ j ∈ s, g j + f i = ∑ j ∈ s, f j + g i := by
  classical
  have hrest : ∑ j ∈ s.erase i, g j = ∑ j ∈ s.erase i, f j :=
    sum_congr rfl fun j hj => h j (ne_of_mem_erase hj)
  rw [← sum_erase_add _ _ hi, ← sum_erase_add _ _ hi, hrest]
  omega

/-- `sum_add_eq` over a whole finite type. -/
theorem sum_univ_add_eq [Fintype ι] (i : ι) (h : ∀ j, j ≠ i → g j = f j) :
    ∑ j, g j + f i = ∑ j, f j + g i :=
  sum_add_eq (mem_univ i) h

/-- The total after one write. -/
theorem sum_update [Fintype ι] [DecidableEq ι] (f : ι → Nat) (i : ι) (v : Nat) :
    ∑ j, Function.update f i v j + f i = ∑ j, f j + v := by
  simpa using sum_univ_add_eq (f := f) (g := Function.update f i v) i
    (fun j hj => Function.update_of_ne hj v f)

/-- An entry is at most the total. -/
theorem le_sum_univ [Fintype ι] (f : ι → Nat) (i : ι) : f i ≤ ∑ j, f j :=
  single_le_sum (fun j _ => Nat.zero_le (f j)) (mem_univ i)

/-- Writes below the range do not change a sum over the next index. -/
theorem sum_range_succ_of_eq {f g : Nat → Nat} {n : Nat} (h : ∀ j, j < n → g j = f j) :
    ∑ j ∈ range (n + 1), g j = ∑ j ∈ range n, f j + g n := by
  rw [sum_range_succ]
  exact congrArg (· + g n) (sum_congr rfl fun j hj => h j (mem_range.mp hj))

/-- A pro-rata split in whole units pays out at most the amount: the floors of
`amount * f i / total` add up to at most `amount`, when `total` is the sum of the `f i`. -/
theorem sum_proRata_le [Fintype ι] (f : ι → Nat) (amount total : Nat) (h : ∑ i, f i = total) :
    ∑ i, amount * f i / total ≤ amount := by
  rcases Nat.eq_zero_or_pos total with h0 | hpos
  · simp [h0]
  · have hfloor : ∑ i, amount * f i / total * total ≤ ∑ i, amount * f i :=
      sum_le_sum fun i _ => Nat.div_mul_le_self _ _
    rw [← sum_mul, ← mul_sum, h] at hfloor
    exact Nat.le_of_mul_le_mul_right hfloor hpos

end Total
