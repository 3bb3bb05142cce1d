import Rackline.Evm.Bytes

/-!
# `Rackline.Lib.LittleEndian`: numbers as bytes, the lowest first

`littleEndian n x` are the `n` lowest bytes of `x`, and `ofLittleEndian` is the number that bytes
spell. Reading the same bytes from the other end is `Evm.ofBigEndian` of their reverse.
-/

set_option autoImplicit false

/-- The `n` lowest bytes of a number, the lowest first. -/
def littleEndian : Nat → Nat → List UInt8
  | 0, _ => []
  | n + 1, x => UInt8.ofNat x :: littleEndian n (x / 256)

/-- The number that bytes spell, the lowest first. -/
def ofLittleEndian : List UInt8 → Nat
  | [] => 0
  | b :: bytes => b.toNat + 256 * ofLittleEndian bytes

@[simp] theorem length_littleEndian (n x : Nat) : (littleEndian n x).length = n := by
  induction n generalizing x with
  | zero => rfl
  | succ n ih => simp [littleEndian, ih]

/-- A number that fits in `n` bytes comes back; of any other its remainder does. -/
theorem ofLittleEndian_littleEndian (n x : Nat) :
    ofLittleEndian (littleEndian n x) = x % 256 ^ n := by
  induction n generalizing x with
  | zero =>
    show 0 = x % 1
    omega
  | succ n ih =>
    have hfirst : (UInt8.ofNat x).toNat = x % 256 := by simp
    show (UInt8.ofNat x).toNat + 256 * ofLittleEndian (littleEndian n (x / 256)) = _
    rw [ih, hfirst, Nat.pow_succ, Nat.mul_comm (256 ^ n) 256, Nat.mod_mul]

/-- The bytes spell zero just when all of them are. -/
theorem ofLittleEndian_eq_zero {bytes : List UInt8} :
    ofLittleEndian bytes = 0 ↔ ∀ b ∈ bytes, b = 0 := by
  induction bytes with
  | nil => simp [ofLittleEndian]
  | cons b bytes ih =>
    have hb : b.toNat = 0 ↔ b = 0 := by
      rw [← UInt8.toNat_inj]
      rfl
    show b.toNat + 256 * ofLittleEndian bytes = 0 ↔ _
    rw [List.forall_mem_cons, ← ih, ← hb]
    omega

namespace Evm

theorem ofBigEndian_append_singleton (bytes : List UInt8) (b : UInt8) :
    ofBigEndian (bytes ++ [b]) = 256 * ofBigEndian bytes + b.toNat := by
  unfold ofBigEndian
  rw [List.foldl_append]
  rfl

/-- The bytes of a number from the other end. -/
theorem ofBigEndian_reverse (bytes : List UInt8) :
    ofBigEndian bytes.reverse = ofLittleEndian bytes := by
  induction bytes with
  | nil => rfl
  | cons b bytes ih =>
    rw [List.reverse_cons, ofBigEndian_append_singleton, ih]
    show _ = b.toNat + 256 * ofLittleEndian bytes
    omega

end Evm
