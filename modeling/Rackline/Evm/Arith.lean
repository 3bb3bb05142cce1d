import Mathlib.Data.Nat.Init
import Mathlib.Algebra.Order.Ring.Nat
import Mathlib.Tactic.Common

/-!
# `Rackline.Evm.Arith`: reverting calls and checked words

A Solidity call either returns or reverts, and a revert undoes every write of the call.
The model of a call is therefore a function into `Except ε`: `.ok` carries the result and
the state after the call, `.error` carries the revert and no state at all.

`revertIf` is the statement `if (c) revert e;`. The checked word operations are those of
Solidity 0.8: a result that does not fit the word, a negative difference and a division by
zero are a panic. `mulDiv` and `mulDivUp` are the two roundings of the full-width
`x * y / d`.

A proof about a call never unfolds these definitions. It peels the call apart with the
`_eq_ok` lemmas below: each says exactly when its operation returns, and with what.
-/

set_option autoImplicit false

namespace Evm

/-- The number of values of an unsigned word of `w` bits. Kept folded in the proofs, so that
no arithmetic step meets the numeral. -/
def wordSize (w : Nat) : Nat := 2 ^ w

/-- A revert type that has a constructor for the arithmetic panic. -/
class Panics (ε : Type) where
  /-- The panic of checked arithmetic. -/
  panic : ε

variable {ε : Type}

/-- `if (c) revert e;`. -/
def revertIf (c : Prop) [Decidable c] (e : ε) : Except ε Unit :=
  if c then .error e else .ok ()

section
variable [Panics ε]

/-- Checked addition of `w`-bit words. -/
def addW (w a b : Nat) : Except ε Nat :=
  if a + b < wordSize w then .ok (a + b) else .error Panics.panic

/-- Checked subtraction. -/
def subW (a b : Nat) : Except ε Nat :=
  if b ≤ a then .ok (a - b) else .error Panics.panic

/-- Checked multiplication of `w`-bit words. -/
def mulW (w a b : Nat) : Except ε Nat :=
  if a * b < wordSize w then .ok (a * b) else .error Panics.panic

/-- `Math.mulDiv(x, y, d)`: the floor of the full-width product over `d`. -/
def mulDiv (x y d : Nat) : Except ε Nat :=
  if d ≠ 0 ∧ x * y / d < wordSize 256 then .ok (x * y / d) else .error Panics.panic

/-- `Math.mulDiv(x, y, d, Rounding.Ceil)`: the floor, plus one when the division is inexact. -/
def mulDivUp (x y d : Nat) : Except ε Nat := do
  let q ← mulDiv x y d
  addW 256 q (if x * y % d ≠ 0 then 1 else 0)

end

/-! ### When a call returns -/

/-- A sequence of two calls returns when the first returns and the second returns on the
result of the first. -/
theorem bind_eq_ok {α β : Type} {x : Except ε α} {f : α → Except ε β} {b : β} :
    (x >>= f) = .ok b ↔ ∃ a, x = .ok a ∧ f a = .ok b := by
  cases x with
  | error e => simp [bind, Except.bind]
  | ok a => simp [bind, Except.bind]

/-- A call that returned hands its result on. -/
theorem ok_bind {α β : Type} (a : α) (f : α → Except ε β) : (Except.ok a >>= f) = f a := rfl

theorem pure_eq_ok {α : Type} {a b : α} : (pure a : Except ε α) = .ok b ↔ a = b := by
  simp [pure, Except.pure]

/-- A call that drops its return value returns when the call does. -/
theorem map_eq_ok {α β : Type} {x : Except ε α} {f : α → β} {b : β} :
    x.map f = .ok b ↔ ∃ a, x = .ok a ∧ f a = b := by
  cases x with
  | error e => simp [Except.map]
  | ok a => simp [Except.map]

theorem toOption_eq_some {α : Type} {x : Except ε α} {a : α} :
    x.toOption = some a ↔ x = .ok a := by
  cases x with
  | error e => simp [Except.toOption]
  | ok b => simp [Except.toOption]

theorem revertIf_eq_ok {c : Prop} [Decidable c] {e : ε} {u : Unit} :
    revertIf c e = .ok u ↔ ¬c := by
  unfold revertIf
  split <;> simp_all

/-- A guard that passes is transparent. -/
theorem revertIf_of_not {c : Prop} [Decidable c] (e : ε) (h : ¬c) : revertIf c e = .ok () :=
  revertIf_eq_ok.mpr h

/-- A guard that fires reverts with its own error, whatever follows. -/
theorem revertIf_bind_of {α : Type} {c : Prop} [Decidable c] (e : ε) (h : c)
    (f : Unit → Except ε α) : (revertIf c e >>= f) = .error e := by
  simp [revertIf, h, bind, Except.bind]

section
variable [Panics ε]

theorem addW_eq_ok {w a b c : Nat} :
    (addW w a b : Except ε Nat) = .ok c ↔ a + b < wordSize w ∧ c = a + b := by
  unfold addW
  split <;> simp_all [eq_comm]

theorem subW_eq_ok {a b c : Nat} :
    (subW a b : Except ε Nat) = .ok c ↔ b ≤ a ∧ c = a - b := by
  unfold subW
  split <;> simp_all [eq_comm]

theorem mulW_eq_ok {w a b c : Nat} :
    (mulW w a b : Except ε Nat) = .ok c ↔ a * b < wordSize w ∧ c = a * b := by
  unfold mulW
  split <;> simp_all [eq_comm]

theorem mulDiv_eq_ok {x y d c : Nat} :
    (mulDiv x y d : Except ε Nat) = .ok c ↔
      d ≠ 0 ∧ x * y / d < wordSize 256 ∧ c = x * y / d := by
  unfold mulDiv
  split <;> simp_all [eq_comm]

/-- The rounded-up quotient is the ceiling of the exact one: the least number whose product
with `d` reaches `x * y`. -/
theorem mulDivUp_eq_ok {x y d c : Nat} (h : (mulDivUp x y d : Except ε Nat) = .ok c) :
    d ≠ 0 ∧ x * y ≤ c * d ∧ ∀ k, x * y ≤ k * d → c ≤ k := by
  unfold mulDivUp at h
  obtain ⟨q, hq, hc⟩ := bind_eq_ok.mp h
  obtain ⟨hd, -, rfl⟩ := mulDiv_eq_ok.mp hq
  obtain ⟨-, rfl⟩ := addW_eq_ok.mp hc
  have hdm := Nat.div_add_mod (x * y) d
  have hlt := Nat.mod_lt (x * y) (Nat.pos_of_ne_zero hd)
  refine ⟨hd, ?_, fun k hk => ?_⟩
  · split
    · rw [Nat.add_mul, Nat.mul_comm _ d, Nat.one_mul]
      omega
    · rw [Nat.add_zero, Nat.mul_comm _ d]
      omega
  · split
    · -- An inexact division: `k` copies of `d` pass `d * q`, so `k` passes `q`.
      have hlt' : d * (x * y / d) < d * k := by
        rw [Nat.mul_comm d k]
        omega
      exact Nat.lt_of_mul_lt_mul_left hlt'
    · exact Nat.div_le_of_le_mul (by rw [Nat.mul_comm d k]; exact hk)

/-- `mulDiv` returns the floor, so its product with the divisor stays below `x * y`. -/
theorem mulDiv_mul_le {x y d c : Nat} (h : (mulDiv x y d : Except ε Nat) = .ok c) :
    c * d ≤ x * y := by
  obtain ⟨-, -, rfl⟩ := mulDiv_eq_ok.mp h
  exact Nat.div_mul_le_self _ _

end

end Evm
