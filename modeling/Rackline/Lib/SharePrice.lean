import Mathlib.Algebra.Order.Ring.Nat
import Mathlib.Tactic.Linarith
import Mathlib.Tactic.Ring

/-!
# `Rackline.Lib.SharePrice`: the price of a share with virtual offsets

A pool of value `n` with `s` shares prices a share at `(n + vA) / (s + vS)`, with the
constant offsets `vA` and `vS`. `PriceLe` compares two such prices, cleared of denominators.

Minting and redeeming round down in favour of the pool, and each rule below says that the
price then does not fall. `PriceLe` is transitive, so it holds across any sequence of
mints and redemptions; `value_le_of_priceLe` reads it at equal or growing supply.
-/

set_option autoImplicit false

namespace SharePrice

/-- The price of `(n, s)` is at most the price of `(n', s')`. -/
def PriceLe (vA vS n s n' s' : Nat) : Prop := (n + vA) * (s' + vS) ≤ (n' + vA) * (s + vS)

variable {vA vS n s n' s' n'' s'' : Nat}

theorem PriceLe.refl (vA vS n s : Nat) : PriceLe vA vS n s n s := Nat.le_refl _

theorem PriceLe.trans (hv : 0 < vS) (h : PriceLe vA vS n s n' s')
    (h' : PriceLe vA vS n' s' n'' s'') : PriceLe vA vS n s n'' s'' := by
  unfold PriceLe at *
  have hpos : 0 < s' + vS := Nat.add_pos_right _ hv
  refine Nat.le_of_mul_le_mul_right ?_ hpos
  calc (n + vA) * (s'' + vS) * (s' + vS)
      = (n + vA) * (s' + vS) * (s'' + vS) := by ring
    _ ≤ (n' + vA) * (s + vS) * (s'' + vS) := Nat.mul_le_mul_right _ h
    _ = (n' + vA) * (s'' + vS) * (s + vS) := by ring
    _ ≤ (n'' + vA) * (s' + vS) * (s + vS) := Nat.mul_le_mul_right _ h'
    _ = (n'' + vA) * (s + vS) * (s' + vS) := by ring

/-- Shares minted at or above the price do not lower it. -/
theorem priceLe_mint (assets shares : Nat) (h : shares * (n + vA) ≤ assets * (s + vS)) :
    PriceLe vA vS n s (n + assets) (s + shares) := by
  unfold PriceLe
  nlinarith

/-- Assets paid at or below the price do not lower it. -/
theorem priceLe_redeem (assets shares : Nat) (h : assets * (s + vS) ≤ shares * (n + vA))
    (hn : n' + assets = n) (hs : s' + shares = s) : PriceLe vA vS n s n' s' := by
  unfold PriceLe
  subst hn hs
  nlinarith

/-- A price that did not fall and a supply that did not fall leave a value that did not
fall. -/
theorem value_le_of_priceLe (hv : 0 < vS) (h : PriceLe vA vS n s n' s') (hs : s ≤ s') :
    n ≤ n' := by
  unfold PriceLe at h
  have hpos : 0 < s + vS := Nat.add_pos_right _ hv
  have hle : (n + vA) * (s + vS) ≤ (n' + vA) * (s + vS) :=
    Nat.le_trans (Nat.mul_le_mul_left _ (by omega)) h
  have := Nat.le_of_mul_le_mul_right hle hpos
  omega

end SharePrice
