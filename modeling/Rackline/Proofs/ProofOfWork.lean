import Rackline.BtcSpvVerifier
import Rackline.Lib.LittleEndian
import Mathlib.Tactic.Ring

/-!
# `Rackline.Proofs.ProofOfWork`: the proof of work that the verifier checks

A block hash has enough work when the number that its bytes spell, the lowest first, is at most the
target of the header (`Worked`). The verifier differs from this rule in two places.

`reverseBytes32ToUint` does not reverse: it reads the first byte as the highest
(`reverseBytes32ToUint_eq`). And the shift of `bitsToTarget` drops what leaves the word before the
cap is applied. The cap repairs this unless nothing is left (`ShiftedOut`): then the target is zero
instead of the cap (`bitsToTarget_eq`).

`verifyPoW_iff` says which hashes and targets the two do not matter for, and
`verifyHeaderChainFull_ok` lifts `verifyPoW` to chains.
-/

set_option autoImplicit false

namespace Rackline.BitcoinLib

open Evm

/-! ### The rule -/

/-- The exponent of a compact target: its first byte. -/
def exponent (bits : UInt32) : Nat := bits.toNat / 2 ^ 24

/-- The mantissa of a compact target: its lowest 23 bits. -/
def mantissa (bits : UInt32) : Nat := bits.toNat % 2 ^ 23

/-- The floor of `m * 256 ^ (e - 3)`. -/
def compactTarget (bits : UInt32) : Nat :=
  if exponent bits ≤ 3 then mantissa bits / 256 ^ (3 - exponent bits)
  else mantissa bits * 256 ^ (exponent bits - 3)

/-- The target of a header. -/
def target (bits : UInt32) : Nat := min MAX_TARGET (compactTarget bits)

/-- The rule of Bitcoin: the hash, read with its lowest byte first, is at most the target. -/
def Worked (h : BytesN 32) (bits : UInt32) : Prop := ofLittleEndian h.1 ≤ target bits

instance (h : BytesN 32) (bits : UInt32) : Decidable (Worked h bits) :=
  inferInstanceAs (Decidable (_ ≤ _))

/-- A mantissa of which no bit stays in the word. -/
def ShiftedOut (bits : UInt32) : Prop :=
  mantissa bits ≠ 0 ∧ 3 < exponent bits ∧ 2 ^ 256 ∣ mantissa bits * 256 ^ (exponent bits - 3)

instance (bits : UInt32) : Decidable (ShiftedOut bits) :=
  inferInstanceAs (Decidable (_ ∧ _ ∧ _))

/-- The hash is on the same side of the target from both ends. Against a target that is shifted out,
it is zero or above the cap. -/
def EitherEnd (h : BytesN 32) (bits : UInt32) : Prop :=
  if ShiftedOut bits then (∀ b ∈ h.1, b = 0) ∨ MAX_TARGET < ofLittleEndian h.1
  else (ofBigEndian h.1 ≤ target bits ↔ ofLittleEndian h.1 ≤ target bits)

instance (h : BytesN 32) (bits : UInt32) : Decidable (EitherEnd h bits) :=
  have : Decidable (∀ b ∈ h.1, b = 0) := List.decidableBAll _ h.1
  inferInstanceAs (Decidable (if ShiftedOut bits then (∀ b ∈ h.1, b = 0) ∨ _ else _))

/-! ### The hash -/

/-- The loop reads the bytes as they stand, the highest first. -/
theorem reverseBytes32ToUint_eq (h : BytesN 32) : reverseBytes32ToUint h = ofBigEndian h.1 := by
  -- After `k` turns the first `k` bytes stand at the top of the word.
  have hloop : ∀ k ≤ 32, (List.range k).foldl (fun result i =>
      result ||| (((h.1[i]?.getD 0).toNat <<< ((31 - i) * 8)) % wordSize 256)) 0 =
        ofBigEndian (h.1.take k) <<< ((32 - k) * 8) := by
    intro k
    induction k with
    | zero =>
      intro _
      simp [ofBigEndian]
    | succ k ih =>
      intro hk
      have hlt : k < h.1.length := by
        rw [h.2]
        omega
      have hbyte := h.1[k].toNat_lt
      rw [List.range_succ, List.foldl_append, ih (by omega), List.foldl_cons, List.foldl_nil,
        List.take_succ_eq_append_getElem hlt, ofBigEndian_append_singleton,
        List.getElem?_eq_getElem hlt, Option.getD_some]
      -- The byte fits below the bytes that are there.
      have hshift : h.1[k].toNat <<< ((31 - k) * 8) < 2 ^ ((32 - k) * 8) := by
        have hwidth : (32 - k) * 8 = 8 + (31 - k) * 8 := by omega
        rw [Nat.shiftLeft_eq, hwidth, Nat.pow_add]
        exact Nat.mul_lt_mul_of_pos_right hbyte (Nat.two_pow_pos _)
      have hword : 2 ^ ((32 - k) * 8) ≤ wordSize 256 :=
        Nat.pow_le_pow_right (by omega) (by omega)
      rw [Nat.mod_eq_of_lt (by omega), ← Nat.shiftLeft_add_eq_or_of_lt hshift]
      have hwidth : (32 - k) * 8 = 8 + (31 - k) * 8 := by omega
      have hwidth' : (32 - (k + 1)) * 8 = (31 - k) * 8 := by omega
      simp only [Nat.shiftLeft_eq, hwidth, hwidth', Nat.pow_add]
      ring
  have hall := hloop 32 (Nat.le_refl _)
  rw [List.take_of_length_le (by rw [h.2]), Nat.sub_self, Nat.zero_mul, Nat.shiftLeft_zero] at hall
  exact hall

/-! ### The target -/

theorem bits_exponent (bits : UInt32) : bits.toNat >>> 24 = exponent bits :=
  Nat.shiftRight_eq_div_pow _ _

theorem bits_mantissa (bits : UInt32) : bits.toNat &&& 0x007fffff = mantissa bits :=
  Nat.and_two_pow_sub_one_eq_mod _ 23

theorem mantissa_lt (bits : UInt32) : mantissa bits < 2 ^ 23 := Nat.mod_lt _ (by decide)

/-- What is left of a mantissa is above the cap, or it is all of it, or nothing. -/
theorem bitsToTarget_eq (bits : UInt32) :
    bitsToTarget bits = if ShiftedOut bits then 0 else target bits := by
  have hm := mantissa_lt bits
  have hcap : 2 ^ 23 ≤ MAX_TARGET ∧ MAX_TARGET < 2 ^ 240 := by decide
  unfold bitsToTarget
  rw [bits_exponent, bits_mantissa]
  dsimp only
  have hmin : ∀ n, (if n > MAX_TARGET then MAX_TARGET else n) = min MAX_TARGET n := by
    intro n
    split <;> omega
  rw [hmin]
  by_cases he : exponent bits ≤ 3
  · have hout : ¬ ShiftedOut bits := fun h => Nat.not_lt.mpr he h.2.1
    rw [if_pos he, if_neg hout]
    unfold target compactTarget
    rw [if_pos he, Nat.shiftRight_eq_div_pow, Nat.pow_mul]
  · rw [if_neg he]
    have hpow : mantissa bits <<< (8 * (exponent bits - 3)) =
        mantissa bits * 256 ^ (exponent bits - 3) := by
      rw [Nat.shiftLeft_eq, Nat.pow_mul]
    have hcompact : compactTarget bits = mantissa bits * 256 ^ (exponent bits - 3) := by
      unfold compactTarget
      rw [if_neg he]
    rw [hpow]
    unfold target
    rw [hcompact]
    have hword : wordSize 256 = 2 ^ 256 := rfl
    rw [hword]
    by_cases hfits : exponent bits ≤ 32
    · -- Nothing leaves the word.
      have hlt : mantissa bits * 256 ^ (exponent bits - 3) < 2 ^ 256 := by
        have hexp : 256 ^ (exponent bits - 3) ≤ 256 ^ 29 :=
          Nat.pow_le_pow_right (by decide) (by omega)
        calc mantissa bits * 256 ^ (exponent bits - 3)
            ≤ mantissa bits * 256 ^ 29 := Nat.mul_le_mul_left _ hexp
          _ ≤ 2 ^ 23 * 256 ^ 29 := Nat.mul_le_mul_right _ hm.le
          _ < 2 ^ 256 := by decide
      have hout : ¬ ShiftedOut bits := by
        rintro ⟨hne, -, hdvd⟩
        have hpos : 0 < mantissa bits * 256 ^ (exponent bits - 3) :=
          Nat.mul_pos (Nat.pos_of_ne_zero hne) (Nat.pow_pos (by decide))
        exact Nat.not_le.mpr hlt (Nat.le_of_dvd hpos hdvd)
      rw [if_neg hout, Nat.mod_eq_of_lt hlt]
    · -- What stays in the word is a multiple of `2 ^ 240`, so it is above the cap or zero.
      have hmultiple : 2 ^ 240 ∣ mantissa bits * 256 ^ (exponent bits - 3) := by
        have hexp : 256 ^ 30 ∣ 256 ^ (exponent bits - 3) := Nat.pow_dvd_pow 256 (by omega)
        have h30 : 256 ^ 30 = 2 ^ 240 := by decide
        exact (h30 ▸ hexp).trans (Nat.dvd_mul_left _ _)
      by_cases hzero : mantissa bits = 0
      · have hout : ¬ ShiftedOut bits := fun h => h.1 hzero
        rw [if_neg hout, hzero, Nat.zero_mul, Nat.zero_mod]
      have hpos : 0 < mantissa bits * 256 ^ (exponent bits - 3) :=
        Nat.mul_pos (Nat.pos_of_ne_zero hzero) (Nat.pow_pos (by decide))
      have hbig := Nat.le_of_dvd hpos hmultiple
      by_cases hdvd : 2 ^ 256 ∣ mantissa bits * 256 ^ (exponent bits - 3)
      · rw [if_pos ⟨hzero, by omega, hdvd⟩, Nat.mod_eq_zero_of_dvd hdvd, Nat.min_zero]
      · have hout : ¬ ShiftedOut bits := fun h => hdvd h.2.2
        have hleft : 2 ^ 240 ∣ mantissa bits * 256 ^ (exponent bits - 3) % 2 ^ 256 :=
          (Nat.dvd_mod_iff (Nat.pow_dvd_pow 2 (by decide))).mpr hmultiple
        have hpos' : 0 < mantissa bits * 256 ^ (exponent bits - 3) % 2 ^ 256 :=
          Nat.pos_of_ne_zero fun h => hdvd (Nat.dvd_of_mod_eq_zero h)
        have hbig' := Nat.le_of_dvd hpos' hleft
        rw [if_neg hout, Nat.min_eq_left (hcap.2.le.trans hbig'),
          Nat.min_eq_left (hcap.2.le.trans hbig)]

/-- The target of a mantissa that is shifted out is the cap. -/
theorem target_shiftedOut {bits : UInt32} (h : ShiftedOut bits) : target bits = MAX_TARGET := by
  have hcap : MAX_TARGET < 2 ^ 256 := by decide
  have hpos : 0 < mantissa bits * 256 ^ (exponent bits - 3) :=
    Nat.mul_pos (Nat.pos_of_ne_zero h.1) (Nat.pow_pos (by decide))
  have hbig := Nat.le_of_dvd hpos h.2.2
  unfold target compactTarget
  rw [if_neg (Nat.not_le.mpr h.2.1)]
  exact Nat.min_eq_left (hcap.le.trans hbig)

/-! ### The check -/

theorem ofBigEndian_eq_zero {bytes : List UInt8} : ofBigEndian bytes = 0 ↔ ∀ b ∈ bytes, b = 0 := by
  rw [← List.reverse_reverse bytes, ofBigEndian_reverse, ofLittleEndian_eq_zero]
  simp

/-- The check agrees with the rule just when it does not matter from which end the hash is read and
the target is not shifted out. -/
theorem verifyPoW_worked (h : BytesN 32) (bits : UInt32) :
    (verifyPoW h bits = true ↔ Worked h bits) ↔ EitherEnd h bits := by
  have hcheck : verifyPoW h bits = true ↔ ofBigEndian h.1 ≤ bitsToTarget bits := by
    unfold verifyPoW
    rw [decide_eq_true_iff, reverseBytes32ToUint_eq]
  rw [hcheck, bitsToTarget_eq]
  unfold EitherEnd Worked
  split
  case isTrue hout =>
    rw [target_shiftedOut hout, Nat.le_zero, ofBigEndian_eq_zero]
    constructor
    · intro hagree
      by_cases hle : ofLittleEndian h.1 ≤ MAX_TARGET
      · exact .inl (hagree.mpr hle)
      · exact .inr (Nat.not_le.mp hle)
    · rintro (hzero | hlt)
      · have hle : ofLittleEndian h.1 ≤ MAX_TARGET := by
          rw [ofLittleEndian_eq_zero.mpr hzero]
          exact Nat.zero_le _
        exact iff_of_true hzero hle
      · refine iff_of_false ?_ (Nat.not_le.mpr hlt)
        intro hzero
        rw [ofLittleEndian_eq_zero.mpr hzero] at hlt
        exact absurd hlt (Nat.not_lt_zero _)
  case isFalse hout => exact .rfl

end Rackline.BitcoinLib

namespace Rackline.BtcSpvVerifier

open Evm BitcoinLib

/-! ### Chains -/

section
variable (sha256d : List UInt8 → BytesN 32) (bits : UInt32)

/-- Headers of 80 bytes, each with the given target and the hash of the one before it. -/
def Linked : BytesN 32 → List (List UInt8) → Prop
  | _, [] => True
  | prevHash, raw :: headers =>
    (∃ header, parseHeader raw = .ok header ∧ header.prevBlockHash = prevHash ∧
      header.bits = bits) ∧ Linked (sha256d raw) headers

theorem parseHeader_length {raw : List UInt8} {header : BlockHeader}
    (h : parseHeader raw = .ok header) : raw.length = HEADER_SIZE := by
  obtain ⟨u, hsize, -⟩ := bind_eq_ok.mp h
  exact not_not.mp (revertIf_eq_ok.mp hsize)

/-- A header of the right size is hashed. -/
theorem hashHeader_ok {raw : List UInt8} (h : raw.length = HEADER_SIZE) :
    hashHeader sha256d raw = .ok (sha256d raw) := by
  unfold hashHeader
  rw [revertIf_of_not _ (not_not.mpr h)]
  rfl

theorem lib_ok {α : Type} {x : Except BitcoinLib.Err α} {a : α} : lib x = .ok a ↔ x = .ok a := by
  unfold lib
  cases x <;> simp [Except.mapError]

/-- The chain is accepted when it is linked and every hash passes the check. -/
theorem verifyHeaderChainFull_ok : ∀ (headers : List (List UInt8)) (prevHash : BytesN 32),
    (∃ parsed, verifyHeaderChainFull sha256d bits prevHash headers = .ok parsed) ↔
      Linked sha256d bits prevHash headers ∧
        ∀ raw ∈ headers, verifyPoW (sha256d raw) bits = true := by
  intro headers
  induction headers with
  | nil => intro prevHash; exact iff_of_true ⟨[], rfl⟩ ⟨trivial, fun raw h => nomatch h⟩
  | cons raw headers ih =>
    intro prevHash
    rw [List.forall_mem_cons]
    constructor
    · rintro ⟨parsed, h⟩
      obtain ⟨header, hparse, h⟩ := bind_eq_ok.mp h
      obtain ⟨_, hprev, h⟩ := bind_eq_ok.mp h
      obtain ⟨_, hbits, h⟩ := bind_eq_ok.mp h
      obtain ⟨hash, hhash, h⟩ := bind_eq_ok.mp h
      obtain ⟨_, hpow, h⟩ := bind_eq_ok.mp h
      obtain ⟨rest, hrest, -⟩ := bind_eq_ok.mp h
      have hparse := lib_ok.mp hparse
      have hprev := not_not.mp (revertIf_eq_ok.mp hprev)
      have hbits := not_not.mp (revertIf_eq_ok.mp hbits)
      rw [hashHeader_ok sha256d (parseHeader_length hparse)] at hhash
      cases lib_ok.mp hhash
      obtain ⟨hlinked, hall⟩ := (ih (sha256d raw)).mp ⟨rest, hrest⟩
      have hpow := revertIf_eq_ok.mp hpow
      rw [hbits, Bool.not_eq_false] at hpow
      exact ⟨⟨⟨header, hparse, hprev, hbits⟩, hlinked⟩, hpow, hall⟩
    · rintro ⟨⟨⟨header, hparse, hprev, hbits⟩, hlinked⟩, hpow, hall⟩
      obtain ⟨rest, hrest⟩ := (ih (sha256d raw)).mpr ⟨hlinked, hall⟩
      have hhash := hashHeader_ok sha256d (parseHeader_length hparse)
      refine ⟨header :: rest, ?_⟩
      unfold verifyHeaderChainFull
      rw [lib_ok.mpr hparse, ok_bind, revertIf_of_not _ (not_not.mpr hprev), ok_bind,
        revertIf_of_not _ (not_not.mpr hbits), ok_bind, lib_ok.mpr hhash, ok_bind, hbits,
        revertIf_of_not _ (by simp [hpow]), ok_bind, hrest]
      rfl

end

/-- The check of a hash agrees with the rule of Bitcoin just when the hash is on the same side of
the target from either end. A linked chain of such hashes is accepted when each header has
worked. -/
theorem verifyPoW_iff (h : BytesN 32) (bits : UInt32) (sha256d : List UInt8 → BytesN 32)
    (prevHash : BytesN 32) (headers : List (List UInt8)) :
    ((verifyPoW h bits = true ↔ Worked h bits) ↔ EitherEnd h bits) ∧
    (Linked sha256d bits prevHash headers → (∀ raw ∈ headers, EitherEnd (sha256d raw) bits) →
      ((∃ parsed, verifyHeaderChainFull sha256d bits prevHash headers = .ok parsed) ↔
        ∀ raw ∈ headers, Worked (sha256d raw) bits)) := by
  refine ⟨verifyPoW_worked h bits, ?_⟩
  intro hlinked hends
  rw [verifyHeaderChainFull_ok]
  constructor
  · rintro ⟨-, hall⟩ raw hraw
    exact ((verifyPoW_worked _ _).mpr (hends raw hraw)).mp (hall raw hraw)
  · intro hall
    refine ⟨hlinked, ?_⟩
    intro raw hraw
    exact ((verifyPoW_worked _ _).mpr (hends raw hraw)).mpr (hall raw hraw)

namespace Sample

/-- The hash of the genesis block, as `sha256d` returns it. -/
def genesisHash : BytesN 32 :=
  ⟨[0x6f, 0xe2, 0x8c, 0x0a, 0xb6, 0xf1, 0xb3, 0x72, 0xc1, 0xa6, 0xa2, 0x46, 0xae, 0x63, 0xf7, 0x4f,
    0x93, 0x1e, 0x83, 0x65, 0xe1, 0x5a, 0x08, 0x9c, 0x68, 0xd6, 0x19, 0x00, 0x00, 0x00, 0x00, 0x00],
    rfl⟩

/-- A hash that ends and begins with zeros. -/
def balancedHash : BytesN 32 :=
  ⟨List.replicate 8 0 ++ List.replicate 16 0x5a ++ List.replicate 8 0, rfl⟩

end Sample

/-- The genesis block has worked for its target, and the check rejects it. A target that is shifted
out rejects every hash but zero. -/
theorem verifyPoW_rejects_genesis :
    (Worked Sample.genesisHash 0x1d00ffff ∧ verifyPoW Sample.genesisHash 0x1d00ffff = false) ∧
    (Worked Sample.balancedHash 0x23000001 ∧ verifyPoW Sample.balancedHash 0x23000001 = false) := by
  decide +kernel

/-- A hash with zeros at both ends passes the check and the rule. -/
theorem verifyPoW_iff_sample :
    verifyPoW Sample.balancedHash 0x1d00ffff = true ↔ Worked Sample.balancedHash 0x1d00ffff :=
  (verifyPoW_iff Sample.balancedHash 0x1d00ffff (fun _ => Sample.balancedHash) Sample.genesisHash
    []).1.mpr (by decide +kernel)

end Rackline.BtcSpvVerifier
