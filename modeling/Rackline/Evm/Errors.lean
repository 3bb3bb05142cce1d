import Rackline.Evm.Arith

/-!
# `Rackline.Evm.Errors`: which errors a call can end with

`ErrorsIn P x` says that `x` returns or ends with an error that satisfies `P`. The rules take a
call apart as it runs: a guard, a call and what follows it. The rules are equivalences, so that
they serve to show that a call has no unwanted error and to read off what its having none says
about its guards.
-/

set_option autoImplicit false

namespace Evm

variable {ε α β : Type} {P : ε → Prop}

/-- Every error that the call can end with satisfies `P`. -/
def ErrorsIn (P : ε → Prop) (x : Except ε α) : Prop := ∀ e, x = .error e → P e

theorem ErrorsIn.of_ok {x : Except ε α} {a : α} (h : x = .ok a) : ErrorsIn P x := by
  intro e he
  rw [h] at he
  cases he

@[simp]
theorem errorsIn_pure (a : α) : ErrorsIn P (pure a : Except ε α) := .of_ok rfl

@[simp]
theorem errorsIn_error (e : ε) : ErrorsIn P (.error e : Except ε α) ↔ P e := by
  constructor
  · exact fun h => h e rfl
  · intro h e' he
    cases he
    exact h

/-- A sequence: the errors of the first call, and those of the rest on its result. -/
theorem errorsIn_bind {x : Except ε α} {f : α → Except ε β} :
    ErrorsIn P (x >>= f) ↔ ErrorsIn P x ∧ ∀ a, x = .ok a → ErrorsIn P (f a) := by
  cases x with
  | error e =>
    show ErrorsIn P (.error e : Except ε β) ↔ _
    simp
  | ok a =>
    rw [ok_bind]
    constructor
    · intro h
      refine ⟨.of_ok rfl, fun b hb => ?_⟩
      cases hb
      exact h
    · exact fun h => h.2 a rfl

/-- A sequence whose first call returned. -/
theorem errorsIn_bind_ok {x : Except ε α} {f : α → Except ε β} {a : α} (h : x = .ok a) :
    ErrorsIn P (x >>= f) ↔ ErrorsIn P (f a) := by
  rw [h, ok_bind]

/-- A guard has one error. -/
theorem errorsIn_revertIf {c : Prop} [Decidable c] {e : ε} :
    ErrorsIn P (revertIf c e) ↔ (c → P e) := by
  unfold revertIf
  split
  · rename_i h
    simp [h]
  · rename_i h
    exact ⟨fun _ hc => absurd hc h, fun _ => .of_ok rfl⟩

/-- A guard and what follows it. -/
theorem errorsIn_guard {c : Prop} [Decidable c] {e : ε} {f : Unit → Except ε β} :
    ErrorsIn P (revertIf c e >>= f) ↔ (c → P e) ∧ (¬c → ErrorsIn P (f ())) := by
  rw [errorsIn_bind, errorsIn_revertIf]
  refine and_congr_right fun _ => ⟨fun h hc => ?_, fun h u hu => ?_⟩
  · exact h () (revertIf_of_not e hc)
  · exact h (revertIf_eq_ok.mp hu)

/-- A guard whose error does not satisfy `P` does not fire. -/
theorem errorsIn_gate {c : Prop} [Decidable c] {e : ε} {f : Unit → Except ε β} (he : ¬P e) :
    ErrorsIn P (revertIf c e >>= f) ↔ ¬c ∧ ErrorsIn P (f ()) := by
  rw [errorsIn_guard]
  exact ⟨fun h => ⟨fun hc => he (h.1 hc), h.2 fun hc => he (h.1 hc)⟩,
    fun h => ⟨fun hc => absurd hc h.1, fun _ => h.2⟩⟩

/-- A guard whose error satisfies `P`, and what follows when it passes. -/
theorem ErrorsIn.guard {c : Prop} [Decidable c] {e : ε} {f : Unit → Except ε β} (he : P e)
    (hf : ¬c → ErrorsIn P (f ())) : ErrorsIn P (revertIf c e >>= f) :=
  errorsIn_guard.mpr ⟨fun _ => he, hf⟩

theorem ErrorsIn.bind {x : Except ε α} {f : α → Except ε β} (hx : ErrorsIn P x)
    (hf : ∀ a, x = .ok a → ErrorsIn P (f a)) : ErrorsIn P (x >>= f) :=
  errorsIn_bind.mpr ⟨hx, hf⟩

section
variable [Panics ε]

/-- Checked arithmetic panics. -/
theorem ErrorsIn.addW {w a b : Nat} (h : P Panics.panic) : ErrorsIn P (addW w a b) := by
  unfold Evm.addW
  split
  · exact .of_ok rfl
  · exact (errorsIn_error _).mpr h

theorem ErrorsIn.subW {a b : Nat} (h : P Panics.panic) : ErrorsIn P (subW a b) := by
  unfold Evm.subW
  split
  · exact .of_ok rfl
  · exact (errorsIn_error _).mpr h

theorem ErrorsIn.mulW {w a b : Nat} (h : P Panics.panic) : ErrorsIn P (mulW w a b) := by
  unfold Evm.mulW
  split
  · exact .of_ok rfl
  · exact (errorsIn_error _).mpr h

end

end Evm
