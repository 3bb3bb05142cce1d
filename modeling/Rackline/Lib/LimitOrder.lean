import Mathlib.Algebra.Order.Ring.Defs
import Mathlib.Tactic.Ring

/-!
# `Rackline.Lib.LimitOrder`: partial fills of an order with a minimum

An order gives up a quantity for at least a minimum. It is filled in parts, each at a price of
its own: a part is allowed when its pay is at least its share of the minimum, cleared of the
division, `minimum * part ≤ pay * quantity`.

`AtFloor` is what the parts add up to: the pay so far and the minimum of what is left cover the
minimum of the whole. Every fill keeps it, whatever the sizes and the prices of the parts, and an
order with nothing left has been paid its minimum.
-/

set_option autoImplicit false

namespace LimitOrder

/-- An order: how much it gives up, how much of that is still unfilled, the least pay for the whole
and the pay so far. -/
structure Order (R : Type) where
  quantity : R
  left : R
  minimum : R
  paid : R

variable {R : Type} [CommSemiring R] [LinearOrder R]

/-- The pay so far, and the minimum of what is left, cover the minimum. -/
def Order.AtFloor (o : Order R) : Prop :=
  o.minimum * o.quantity ≤ o.paid * o.quantity + o.minimum * o.left

/-- A fill of `part` for `pay`: the part comes out of what is left, and its pay is at least its
share of the minimum. -/
structure Fill (o : Order R) (part pay : R) (o' : Order R) : Prop where
  quantity : o'.quantity = o.quantity
  minimum : o'.minimum = o.minimum
  left : o'.left + part = o.left
  paid : o'.paid = o.paid + pay
  floor : o.minimum * part ≤ pay * o.quantity

variable {o o' : Order R}

/-- An order that is still whole is at its floor. -/
theorem Order.AtFloor.whole (hleft : o.left = o.quantity) (hpaid : o.paid = 0) : o.AtFloor := by
  show o.minimum * o.quantity ≤ o.paid * o.quantity + o.minimum * o.left
  rw [hleft, hpaid, zero_mul, zero_add]

variable [IsStrictOrderedRing R]

/-- A fill keeps the order at its floor. -/
theorem Fill.atFloor {part pay : R} (h : Fill o part pay o') (ho : o.AtFloor) : o'.AtFloor := by
  show o'.minimum * o'.quantity ≤ o'.paid * o'.quantity + o'.minimum * o'.left
  rw [h.quantity, h.minimum, h.paid]
  calc o.minimum * o.quantity
      ≤ o.paid * o.quantity + o.minimum * o.left := ho
    _ = o.paid * o.quantity + (o.minimum * o'.left + o.minimum * part) := by
        rw [← h.left, mul_add]
    _ ≤ o.paid * o.quantity + (o.minimum * o'.left + pay * o.quantity) :=
        add_le_add_right (add_le_add_right h.floor _) _
    _ = (o.paid + pay) * o.quantity + o.minimum * o'.left := by ring

/-- An order at its floor with nothing left has been paid its minimum. -/
theorem Order.AtFloor.minimum_le_paid (ho : o.AtFloor) (hleft : o.left = 0)
    (hq : 0 < o.quantity) : o.minimum ≤ o.paid := by
  have hle : o.minimum * o.quantity ≤ o.paid * o.quantity := by
    calc o.minimum * o.quantity
        ≤ o.paid * o.quantity + o.minimum * o.left := ho
      _ = o.paid * o.quantity := by rw [hleft, mul_zero, add_zero]
  exact le_of_mul_le_mul_right hle hq

end LimitOrder
