import Rackline.Evm.Arith
import Mathlib.Logic.Function.Basic

/-!
# `Rackline.Evm.Token`: a standard ERC-20 token

The token moves exactly the stated amount or fails: there is no fee, no rebasing and no
callback. A call that fails returns `none`; the calling contract turns that into its own
revert. Every balance fits a 256-bit word, and the structure carries the proof.

`move_balance` is the one fact the contracts rely on: what a successful movement does to
every balance. Allowances change only in `approve` and, for the spender, in `transferFrom`.
-/

set_option autoImplicit false

namespace Evm

/-- The state of a standard ERC-20 token over the addresses `A`. -/
structure Token (A : Type) where
  /-- `balanceOf(a)`. -/
  balanceOf : A → Nat
  /-- `allowance(owner, spender)`. -/
  allowance : A → A → Nat
  /-- Balances are 256-bit words. -/
  bounded : ∀ a, balanceOf a < wordSize 256

namespace Token

variable {A : Type} [DecidableEq A]

/-- Take `amount` from `src` and give it to `dst`. Fails when `src` has less. -/
def move (t : Token A) (src dst : A) (amount : Nat) : Option (Token A) :=
  if amount ≤ t.balanceOf src then
    let debited := Function.update t.balanceOf src (t.balanceOf src - amount)
    if h : debited dst + amount < wordSize 256 then
      some
        { t with
          balanceOf := Function.update debited dst (debited dst + amount)
          bounded := by
            intro a
            by_cases ha : a = dst
            · simpa [ha] using h
            · rw [Function.update_of_ne ha]
              by_cases hs : a = src
              · subst hs
                simpa [debited] using Nat.lt_of_le_of_lt (Nat.sub_le _ _) (t.bounded a)
              · simpa [debited, Function.update_of_ne hs] using t.bounded a }
    else none
  else none

/-- `transfer(to, amount)` called by `sender`. -/
def transfer (t : Token A) (sender dst : A) (amount : Nat) : Option (Token A) :=
  t.move sender dst amount

/-- `approve(spender, amount)` called by `owner`. -/
def approve (t : Token A) (owner spender : A) (amount : Nat) : Token A :=
  { t with
    allowance := Function.update t.allowance owner
      (Function.update (t.allowance owner) spender amount) }

/-- `transferFrom(src, dst, amount)` called by `spender`. An infinite allowance is not
reduced. -/
def transferFrom (t : Token A) (spender src dst : A) (amount : Nat) : Option (Token A) :=
  if amount ≤ t.allowance src spender then
    (if t.allowance src spender + 1 = wordSize 256 then t
      else t.approve src spender (t.allowance src spender - amount)).move src dst amount
  else none

/-- What a movement does to every balance and allowance. -/
theorem move_balance {t t' : Token A} {src dst : A} {amount : Nat}
    (h : t.move src dst amount = some t') :
    amount ≤ t.balanceOf src ∧
    t'.balanceOf = Function.update (Function.update t.balanceOf src (t.balanceOf src - amount)) dst
      (Function.update t.balanceOf src (t.balanceOf src - amount) dst + amount) ∧
    t'.allowance = t.allowance := by
  unfold move at h
  split at h
  · rename_i hle
    simp only at h
    split at h
    · cases h
      exact ⟨hle, rfl, rfl⟩
    · cases h
  · cases h

/-- A movement as one equation for every account, also when the two accounts are the same. -/
theorem move_balance_add {t t' : Token A} {src dst : A} {amount : Nat}
    (h : t.move src dst amount = some t') (a : A) :
    t'.balanceOf a + (if a = src then amount else 0) =
      t.balanceOf a + (if a = dst then amount else 0) := by
  obtain ⟨hle, hbal, -⟩ := move_balance h
  rw [hbal]
  by_cases hd : a = dst
  · subst hd
    rw [Function.update_self, if_pos rfl]
    by_cases hs : a = src
    · subst hs
      rw [Function.update_self, if_pos rfl]
      omega
    · rw [Function.update_of_ne hs, if_neg hs, Nat.add_zero]
  · rw [Function.update_of_ne hd, if_neg hd]
    by_cases hs : a = src
    · subst hs
      rw [Function.update_self, if_pos rfl]
      omega
    · rw [Function.update_of_ne hs, if_neg hs]

/-- A movement between two accounts debits the one and credits the other. -/
theorem move_of_ne {t t' : Token A} {src dst : A} {amount : Nat}
    (h : t.move src dst amount = some t') (hne : src ≠ dst) :
    t'.balanceOf src + amount = t.balanceOf src ∧
    t'.balanceOf dst = t.balanceOf dst + amount ∧
    ∀ a, a ≠ src → a ≠ dst → t'.balanceOf a = t.balanceOf a := by
  obtain ⟨hle, hbal, -⟩ := move_balance h
  rw [hbal]
  refine ⟨?_, ?_, fun a hs hd => ?_⟩
  · rw [Function.update_of_ne hne, Function.update_self]
    omega
  · rw [Function.update_self, Function.update_of_ne hne.symm]
  · rw [Function.update_of_ne hd, Function.update_of_ne hs]

/-- A movement of an account to itself changes no balance. -/
theorem move_self {t t' : Token A} {a : A} {amount : Nat}
    (h : t.move a a amount = some t') : t'.balanceOf = t.balanceOf := by
  obtain ⟨hle, hbal, -⟩ := move_balance h
  rw [hbal, Function.update_self, Function.update_idem, Nat.sub_add_cancel hle,
    Function.update_eq_self]

/-- The balance of an account that sends nothing does not fall. -/
theorem move_balance_le {t t' : Token A} {src dst : A} {amount : Nat}
    (h : t.move src dst amount = some t') (a : A) (ha : a ≠ src) :
    t.balanceOf a ≤ t'.balanceOf a := by
  by_cases hsd : src = dst
  · subst hsd
    rw [move_self h]
  · obtain ⟨-, hdst, hrest⟩ := move_of_ne h hsd
    by_cases hd : a = dst
    · subst hd
      omega
    · rw [hrest a ha hd]

/-- A delegated movement leaves every other account alone. -/
theorem transferFrom_other {t t' : Token A} {spender src dst a : A} {amount : Nat}
    (h : t.transferFrom spender src dst amount = some t') (hs : a ≠ src) (hd : a ≠ dst) :
    t'.balanceOf a = t.balanceOf a := by
  unfold transferFrom at h
  split at h
  · have hbal := (move_balance h).2.1
    rw [hbal, Function.update_of_ne hd, Function.update_of_ne hs]
    split <;> rfl
  · cases h

/-- A delegated movement is a movement after the allowance was spent. -/
theorem transferFrom_move {t t' : Token A} {spender src dst : A} {amount : Nat}
    (h : t.transferFrom spender src dst amount = some t') :
    amount ≤ t.allowance src spender ∧
    ∃ t₁ : Token A, t₁.balanceOf = t.balanceOf ∧
      (∀ owner, owner ≠ src → t₁.allowance owner = t.allowance owner) ∧
      (∀ sp, t₁.allowance src sp ≤ t.allowance src sp) ∧
      t₁.move src dst amount = some t' := by
  unfold transferFrom at h
  split at h
  · rename_i hle
    refine ⟨hle, _, ?_, ?_, ?_, h⟩
    · split <;> rfl
    · intro owner ho
      split
      · rfl
      · simp [approve, Function.update_of_ne ho]
    · intro sp
      split
      · exact Nat.le_refl _
      · by_cases hsp : sp = spender
        · subst hsp
          simp [approve]
        · simp [approve, Function.update_of_ne hsp]
  · cases h

/-- What a delegated movement does to the balances does not depend on the spender. -/
theorem transferFrom_balanceOf_eq {t t₁ t₂ : Token A} {spender₁ spender₂ src dst : A}
    {amount : Nat} (h₁ : t.transferFrom spender₁ src dst amount = some t₁)
    (h₂ : t.transferFrom spender₂ src dst amount = some t₂) : t₁.balanceOf = t₂.balanceOf := by
  obtain ⟨-, u₁, hu₁, -, -, hmove₁⟩ := transferFrom_move h₁
  obtain ⟨-, u₂, hu₂, -, -, hmove₂⟩ := transferFrom_move h₂
  rw [(move_balance hmove₁).2.1, (move_balance hmove₂).2.1, hu₁, hu₂]

/-! ### What others may do to an account -/

/-- As long as `a` has approved nobody, the movement leaves it that way and takes nothing from
`a`. -/
def Spares (a : A) (t t' : Token A) : Prop :=
  (∀ spender, t.allowance a spender = 0) →
    (∀ spender, t'.allowance a spender = 0) ∧ t.balanceOf a ≤ t'.balanceOf a

theorem Spares.refl (a : A) (t : Token A) : Spares a t t :=
  fun hallow => ⟨hallow, Nat.le_refl _⟩

theorem Spares.trans {a : A} {t t' t'' : Token A} (h : Spares a t t') (h' : Spares a t' t'') :
    Spares a t t'' := by
  intro hallow
  obtain ⟨hmid, hle⟩ := h hallow
  obtain ⟨hend, hle'⟩ := h' hmid
  exact ⟨hend, hle.trans hle'⟩

theorem move_spares {t t' : Token A} {a src dst : A} {amount : Nat}
    (h : t.move src dst amount = some t') (hne : a ≠ src) : Spares a t t' := by
  intro hallow
  refine ⟨fun spender => ?_, move_balance_le h a hne⟩
  rw [(move_balance h).2.2]
  exact hallow spender

theorem approve_spares {t : Token A} {a owner spender : A} {amount : Nat} (hne : a ≠ owner) :
    Spares a t (t.approve owner spender amount) := by
  intro hallow
  refine ⟨fun sp => ?_, Nat.le_refl _⟩
  simp only [approve, Function.update_of_ne hne, hallow]

/-- A delegated movement spares everybody who has approved nobody: from such an account it moves
nothing. -/
theorem transferFrom_spares {t t' : Token A} {a spender src dst : A} {amount : Nat}
    (h : t.transferFrom spender src dst amount = some t') : Spares a t t' := by
  intro hallow
  obtain ⟨hle, t₁, hbal, hother, hrow, hmove⟩ := transferFrom_move h
  have hallowance := (move_balance hmove).2.2
  by_cases hsrc : a = src
  · subst hsrc
    obtain rfl : amount = 0 := Nat.le_zero.mp (hallow spender ▸ hle)
    refine ⟨fun sp => ?_, ?_⟩
    · rw [hallowance]
      exact Nat.le_zero.mp (hallow sp ▸ hrow sp)
    · by_cases hdst : a = dst
      · subst hdst
        rw [move_self hmove, hbal]
      · have := (move_of_ne hmove hdst).1
        rw [hbal] at this
        omega
  · refine ⟨fun sp => ?_, ?_⟩
    · rw [hallowance, hother a hsrc, hallow]
    · rw [← hbal]
      exact move_balance_le hmove a hsrc

end Token

end Evm
