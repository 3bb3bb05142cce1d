import Mathlib.Logic.Function.Basic
import Mathlib.Tactic.Common

/-!
# `Rackline.Evm.Storage`: writes to nested mappings

A `mapping(K => mapping(L => V))` is a function of two arguments. `set2` writes one entry.
-/

set_option autoImplicit false

namespace Evm

variable {K L V : Type} [DecidableEq K] [DecidableEq L]

/-- `f[i][j] = v`. -/
def set2 (f : K → L → V) (i : K) (j : L) (v : V) : K → L → V :=
  Function.update f i (Function.update (f i) j v)

/-- Reading after a write. -/
theorem set2_apply (f : K → L → V) (i i' : K) (j j' : L) (v : V) :
    set2 f i j v i' j' = if i' = i ∧ j' = j then v else f i' j' := by
  unfold set2
  by_cases hi : i' = i
  · subst hi
    by_cases hj : j' = j
    · simp [hj]
    · simp [hj]
  · simp [hi]

@[simp] theorem set2_self (f : K → L → V) (i : K) (j : L) (v : V) : set2 f i j v i j = v := by
  simp [set2_apply]

/-- A second write of one entry. -/
@[simp] theorem set2_idem (f : K → L → V) (i : K) (j : L) (v w : V) :
    set2 (set2 f i j v) i j w = set2 f i j w := by
  funext i' j'
  simp only [set2_apply]
  split
  · rfl
  · rfl

/-- The row of a written entry is the old row with one write. -/
@[simp] theorem set2_row (f : K → L → V) (i : K) (j : L) (v : V) :
    set2 f i j v i = Function.update (f i) j v := by
  simp [set2]

/-- Other rows stay. -/
theorem set2_row_of_ne (f : K → L → V) {i i' : K} (j : L) (v : V) (h : i' ≠ i) :
    set2 f i j v i' = f i' := by
  simp [set2, h]

end Evm
