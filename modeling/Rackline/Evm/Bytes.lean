import Mathlib.Algebra.GroupWithZero.Nat

/-!
# `Rackline.Evm.Bytes`: words as bytes

`bigEndian n x` are the `n` lowest bytes of `x`, the highest of them first, and `ofBigEndian` is the
number that bytes spell. What comes back of a number is its remainder
(`ofBigEndian_bigEndian`). In a sequence of words of `n` bytes each, the `i`-th word is the `i`-th
stretch of `n` bytes (`drop_flatMap_bigEndian`).
-/

set_option autoImplicit false

namespace Evm

/-- The `n` lowest bytes of a number, the highest first. -/
def bigEndian : Nat → Nat → List UInt8
  | 0, _ => []
  | n + 1, x => bigEndian n (x / 256) ++ [UInt8.ofNat x]

/-- The number that bytes spell, the highest first. -/
def ofBigEndian (bytes : List UInt8) : Nat :=
  bytes.foldl (fun acc b => 256 * acc + b.toNat) 0

@[simp] theorem length_bigEndian (n x : Nat) : (bigEndian n x).length = n := by
  induction n generalizing x with
  | zero => rfl
  | succ n ih => simp [bigEndian, ih]

/-- A number that fits in `n` bytes comes back; of any other its remainder does. -/
theorem ofBigEndian_bigEndian (n x : Nat) : ofBigEndian (bigEndian n x) = x % 256 ^ n := by
  induction n generalizing x with
  | zero =>
    show 0 = x % 1
    omega
  | succ n ih =>
    -- The last byte is the remainder by 256, and the bytes before it spell the quotient.
    have hlast : (UInt8.ofNat x).toNat = x % 256 := by simp
    show (bigEndian n (x / 256) ++ [UInt8.ofNat x]).foldl _ 0 = _
    rw [List.foldl_append]
    show 256 * ofBigEndian (bigEndian n (x / 256)) + (UInt8.ofNat x).toNat = _
    rw [ih, hlast, Nat.pow_succ, Nat.mul_comm (256 ^ n) 256, Nat.mod_mul]
    omega

/-- The bytes from the `i`-th word on. -/
theorem drop_flatMap_bigEndian (n : Nat) (words : List Nat) (i : Nat) :
    (words.flatMap (bigEndian n)).drop (n * i) = (words.drop i).flatMap (bigEndian n) := by
  induction words generalizing i with
  | nil => simp
  | cons x words ih =>
    cases i with
    | zero => simp
    | succ i =>
      have hlen : (bigEndian n x).length = n := length_bigEndian n x
      rw [List.flatMap_cons, List.drop_succ_cons, ← ih i, Nat.mul_succ, Nat.add_comm (n * i) n,
        ← List.drop_drop]
      congr 1
      rw [List.drop_append_of_le_length (by omega), List.drop_of_length_le (by omega)]
      rfl

theorem length_flatMap_bigEndian (n : Nat) (words : List Nat) :
    (words.flatMap (bigEndian n)).length = n * words.length := by
  induction words with
  | nil => rfl
  | cons x words ih => simp [ih, Nat.mul_succ, Nat.add_comm]

end Evm
