import Rackline.Evm.Bytes

/-!
# `Rackline.Evm.Sha256`: the hash of the precompile

`sha256` as the contracts and the prover call it: the data is filled up to blocks of 16 words, and
each block changes eight words of state in 64 rounds. The schedule of a block is kept as a window of
the next 16 words.
-/

set_option autoImplicit false

namespace Evm.Sha256

/-- A word rotated to the right. -/
def rotr (n x : Nat) : Nat := (x >>> n) ||| ((x <<< (32 - n)) % 2 ^ 32)

/-- The constants of the rounds. -/
def constants : List Nat := [
  0x428a2f98, 0x71374491, 0xb5c0fbcf, 0xe9b5dba5, 0x3956c25b, 0x59f111f1, 0x923f82a4, 0xab1c5ed5,
  0xd807aa98, 0x12835b01, 0x243185be, 0x550c7dc3, 0x72be5d74, 0x80deb1fe, 0x9bdc06a7, 0xc19bf174,
  0xe49b69c1, 0xefbe4786, 0x0fc19dc6, 0x240ca1cc, 0x2de92c6f, 0x4a7484aa, 0x5cb0a9dc, 0x76f988da,
  0x983e5152, 0xa831c66d, 0xb00327c8, 0xbf597fc7, 0xc6e00bf3, 0xd5a79147, 0x06ca6351, 0x14292967,
  0x27b70a85, 0x2e1b2138, 0x4d2c6dfc, 0x53380d13, 0x650a7354, 0x766a0abb, 0x81c2c92e, 0x92722c85,
  0xa2bfe8a1, 0xa81a664b, 0xc24b8b70, 0xc76c51a3, 0xd192e819, 0xd6990624, 0xf40e3585, 0x106aa070,
  0x19a4c116, 0x1e376c08, 0x2748774c, 0x34b0bcb5, 0x391c0cb3, 0x4ed8aa4a, 0x5b9cca4f, 0x682e6ff3,
  0x748f82ee, 0x78a5636f, 0x84c87814, 0x8cc70208, 0x90befffa, 0xa4506ceb, 0xbef9a3f7, 0xc67178f2]

/-- The working words. -/
structure State where
  a : Nat
  b : Nat
  c : Nat
  d : Nat
  e : Nat
  f : Nat
  g : Nat
  h : Nat

/-- The words before the first block. -/
def State.initial : State where
  a := 0x6a09e667
  b := 0xbb67ae85
  c := 0x3c6ef372
  d := 0xa54ff53a
  e := 0x510e527f
  f := 0x9b05688c
  g := 0x1f83d9ab
  h := 0x5be0cd19

/-- A round with its constant and its word of the schedule. -/
def State.round (s : State) (k w : Nat) : State :=
  let s₁ := rotr 6 s.e ^^^ rotr 11 s.e ^^^ rotr 25 s.e
  let choice := (s.e &&& s.f) ^^^ ((s.e ^^^ 0xffffffff) &&& s.g)
  let t₁ := s.h + s₁ + choice + k + w
  let s₀ := rotr 2 s.a ^^^ rotr 13 s.a ^^^ rotr 22 s.a
  let majority := (s.a &&& s.b) ^^^ (s.a &&& s.c) ^^^ (s.b &&& s.c)
  { a := (t₁ + s₀ + majority) % 2 ^ 32
    b := s.a
    c := s.b
    d := s.c
    e := (s.d + t₁) % 2 ^ 32
    f := s.e
    g := s.f
    h := s.g }

/-- The window of the schedule, one word on. -/
def slide (window : List Nat) : List Nat :=
  let w₁ := window[1]?.getD 0
  let w₁₄ := window[14]?.getD 0
  let s₀ := rotr 7 w₁ ^^^ rotr 18 w₁ ^^^ (w₁ >>> 3)
  let s₁ := rotr 17 w₁₄ ^^^ rotr 19 w₁₄ ^^^ (w₁₄ >>> 10)
  window.tail ++ [(window.headD 0 + s₀ + window[9]?.getD 0 + s₁) % 2 ^ 32]

/-- The rounds. -/
def rounds : List Nat → State → List Nat → State
  | [], s, _ => s
  | k :: constants, s, window => rounds constants (s.round k (window.headD 0)) (slide window)

/-- A block. -/
def State.block (s : State) (words : List Nat) : State :=
  let t := rounds constants s words
  { a := (s.a + t.a) % 2 ^ 32
    b := (s.b + t.b) % 2 ^ 32
    c := (s.c + t.c) % 2 ^ 32
    d := (s.d + t.d) % 2 ^ 32
    e := (s.e + t.e) % 2 ^ 32
    f := (s.f + t.f) % 2 ^ 32
    g := (s.g + t.g) % 2 ^ 32
    h := (s.h + t.h) % 2 ^ 32 }

/-- The data with a bit behind it, zeros, and its length in bits. -/
def padded (data : List UInt8) : List UInt8 :=
  data ++ 0x80 :: List.replicate ((119 - data.length % 64) % 64) 0 ++ bigEndian 8 (8 * data.length)

/-- Bytes as words. -/
def words : List UInt8 → List Nat
  | a :: b :: c :: d :: bytes => ofBigEndian [a, b, c, d] :: words bytes
  | _ => []

/-- The first `n` blocks of the words. -/
def blocks : Nat → List Nat → State → State
  | 0, _, s => s
  | n + 1, ws, s => blocks n (ws.drop 16) (s.block (ws.take 16))

/-- The state as bytes. -/
def State.bytes (s : State) : List UInt8 :=
  [s.a, s.b, s.c, s.d, s.e, s.f, s.g, s.h].flatMap (bigEndian 4)

theorem State.length_bytes (s : State) : s.bytes.length = 32 := by
  unfold State.bytes
  rw [length_flatMap_bigEndian]
  rfl

end Evm.Sha256

namespace Evm

open Sha256

/-- `sha256`. -/
def sha256 (data : List UInt8) : { bytes : List UInt8 // bytes.length = 32 } :=
  let s := blocks ((data.length + 72) / 64) (words (padded data)) .initial
  ⟨s.bytes, s.length_bytes⟩

/-- `sha256(abi.encodePacked(sha256(data)))`. -/
def sha256d (data : List UInt8) : { bytes : List UInt8 // bytes.length = 32 } :=
  sha256 (sha256 data).1

/-- The hash of nothing, hashed. -/
example : ofBigEndian (sha256d []).1 =
    0x5df6e0e2761359d30a8275058e299fcc0381534545f55cf43e41983f5d4c9456 := by
  decide +kernel

end Evm
