import Rackline.BitcoinProver
import Rackline.Lib.TxFormat

/-!
# `Rackline.Proofs.TxParsing`: the outputs of a transaction come back

`readVarInt` and `parse_varint` read a canonical varint and stop behind it (`readVarInt_at`,
`parseVarint_at`). The loops over the inputs and the outputs stay on the serialization by induction
on the lists (`skipInputs_at`, `skipOutputs_at`, `outputsLoop_at`), so that both parsers return the
outputs of a well-formed transaction, in both serializations.
-/

set_option autoImplicit false

namespace Rackline.BitcoinLib

open Evm TxFormat

/-! ### Words -/

/-- Bits above a number are added to it. -/
theorem or_shiftLeft {x k : Nat} (hx : x < 2 ^ k) (b : Nat) : x ||| b <<< k = x + b * 2 ^ k := by
  rw [Nat.or_comm, ← Nat.shiftLeft_add_eq_or_of_lt hx, Nat.shiftLeft_eq, Nat.add_comm]

theorem toUInt32_shiftLeft (b : UInt8) {k : UInt32} (hk : k.toNat + 8 ≤ 32) :
    (b.toUInt32 <<< k).toNat = b.toNat <<< k.toNat := by
  have hb := b.toNat_lt
  have hlt : b.toNat <<< k.toNat < 2 ^ 32 := by
    rw [Nat.shiftLeft_eq]
    calc b.toNat * 2 ^ k.toNat
        < 2 ^ 8 * 2 ^ k.toNat := Nat.mul_lt_mul_of_pos_right hb (Nat.two_pow_pos _)
      _ = 2 ^ (8 + k.toNat) := (Nat.pow_add 2 8 _).symm
      _ ≤ 2 ^ 32 := Nat.pow_le_pow_right (by decide) (by omega)
  rw [UInt32.toNat_shiftLeft, UInt8.toNat_toUInt32, Nat.mod_eq_of_lt (by omega : k.toNat < 32),
    Nat.mod_eq_of_lt hlt]

/-- Four bytes put together. -/
theorem or_bytes32 (b₀ b₁ b₂ b₃ : UInt8) :
    (b₀.toUInt32 ||| (b₁.toUInt32 <<< 8) ||| (b₂.toUInt32 <<< 16) |||
      (b₃.toUInt32 <<< 24)).toNat = ofLittleEndian [b₀, b₁, b₂, b₃] := by
  have h₀ := b₀.toNat_lt
  have h₁ := b₁.toNat_lt
  have h₂ := b₂.toNat_lt
  rw [UInt32.toNat_or, UInt32.toNat_or, UInt32.toNat_or, UInt8.toNat_toUInt32,
    toUInt32_shiftLeft b₁ (by decide), toUInt32_shiftLeft b₂ (by decide),
    toUInt32_shiftLeft b₃ (by decide)]
  show b₀.toNat ||| b₁.toNat <<< 8 ||| b₂.toNat <<< 16 ||| b₃.toNat <<< 24 = _
  have h₀₁ : b₀.toNat + b₁.toNat * 2 ^ 8 < 2 ^ 16 := by omega
  have h₀₂ : b₀.toNat + b₁.toNat * 2 ^ 8 + b₂.toNat * 2 ^ 16 < 2 ^ 24 := by omega
  rw [or_shiftLeft h₀, or_shiftLeft h₀₁, or_shiftLeft h₀₂]
  simp only [ofLittleEndian]
  omega

theorem toUInt64_shiftLeft (b : UInt8) {k : UInt64} (hk : k.toNat + 8 ≤ 64) :
    (b.toUInt64 <<< k).toNat = b.toNat <<< k.toNat := by
  have hb := b.toNat_lt
  have hlt : b.toNat <<< k.toNat < 2 ^ 64 := by
    rw [Nat.shiftLeft_eq]
    calc b.toNat * 2 ^ k.toNat
        < 2 ^ 8 * 2 ^ k.toNat := Nat.mul_lt_mul_of_pos_right hb (Nat.two_pow_pos _)
      _ = 2 ^ (8 + k.toNat) := (Nat.pow_add 2 8 _).symm
      _ ≤ 2 ^ 64 := Nat.pow_le_pow_right (by decide) (by omega)
  rw [UInt64.toNat_shiftLeft, UInt8.toNat_toUInt64, Nat.mod_eq_of_lt (by omega : k.toNat < 64),
    Nat.mod_eq_of_lt hlt]

/-- Eight bytes put together. -/
theorem or_bytes64 (b₀ b₁ b₂ b₃ b₄ b₅ b₆ b₇ : UInt8) :
    (b₀.toUInt64 ||| (b₁.toUInt64 <<< 8) ||| (b₂.toUInt64 <<< 16) ||| (b₃.toUInt64 <<< 24) |||
      (b₄.toUInt64 <<< 32) ||| (b₅.toUInt64 <<< 40) ||| (b₆.toUInt64 <<< 48) |||
      (b₇.toUInt64 <<< 56)).toNat = ofLittleEndian [b₀, b₁, b₂, b₃, b₄, b₅, b₆, b₇] := by
  have h₀ := b₀.toNat_lt
  have h₁ := b₁.toNat_lt
  have h₂ := b₂.toNat_lt
  have h₃ := b₃.toNat_lt
  have h₄ := b₄.toNat_lt
  have h₅ := b₅.toNat_lt
  have h₆ := b₆.toNat_lt
  simp only [UInt64.toNat_or, UInt8.toNat_toUInt64]
  rw [toUInt64_shiftLeft b₁ (by decide), toUInt64_shiftLeft b₂ (by decide),
    toUInt64_shiftLeft b₃ (by decide), toUInt64_shiftLeft b₄ (by decide),
    toUInt64_shiftLeft b₅ (by decide), toUInt64_shiftLeft b₆ (by decide),
    toUInt64_shiftLeft b₇ (by decide)]
  show b₀.toNat ||| b₁.toNat <<< 8 ||| b₂.toNat <<< 16 ||| b₃.toNat <<< 24 ||| b₄.toNat <<< 32 |||
    b₅.toNat <<< 40 ||| b₆.toNat <<< 48 ||| b₇.toNat <<< 56 = _
  -- Each byte stands above the sum of those before it.
  have h₀₁ : b₀.toNat + b₁.toNat * 2 ^ 8 < 2 ^ 16 := by omega
  have h₀₂ : b₀.toNat + b₁.toNat * 2 ^ 8 + b₂.toNat * 2 ^ 16 < 2 ^ 24 := by omega
  have h₀₃ : b₀.toNat + b₁.toNat * 2 ^ 8 + b₂.toNat * 2 ^ 16 + b₃.toNat * 2 ^ 24 < 2 ^ 32 := by
    omega
  rw [or_shiftLeft h₀, or_shiftLeft h₀₁, or_shiftLeft h₀₂, or_shiftLeft h₀₃]
  generalize hlow : b₀.toNat + b₁.toNat * 2 ^ 8 + b₂.toNat * 2 ^ 16 + b₃.toNat * 2 ^ 24 = low at *
  have h₀₄ : low + b₄.toNat * 2 ^ 32 < 2 ^ 40 := by omega
  have h₀₅ : low + b₄.toNat * 2 ^ 32 + b₅.toNat * 2 ^ 40 < 2 ^ 48 := by omega
  have h₀₆ : low + b₄.toNat * 2 ^ 32 + b₅.toNat * 2 ^ 40 + b₆.toNat * 2 ^ 48 < 2 ^ 56 := by omega
  rw [or_shiftLeft h₀₄, or_shiftLeft h₀₅, or_shiftLeft h₀₆]
  simp only [ofLittleEndian]
  omega

/-- Two bytes put together. -/
theorem or_bytes16 (b₀ b₁ : UInt8) :
    (b₀.toUInt16 ||| (b₁.toUInt16 <<< 8)).toNat = ofLittleEndian [b₀, b₁] := by
  have h₀ := b₀.toNat_lt
  have h₁ := b₁.toNat_lt
  have hshift : (b₁.toUInt16 <<< 8).toNat = b₁.toNat <<< 8 := by
    have hlt : b₁.toNat <<< 8 < 2 ^ 16 := by
      rw [Nat.shiftLeft_eq]
      omega
    rw [UInt16.toNat_shiftLeft, UInt8.toNat_toUInt16]
    exact Nat.mod_eq_of_lt hlt
  rw [UInt16.toNat_or, UInt8.toNat_toUInt16, hshift, or_shiftLeft h₀]
  simp only [ofLittleEndian]
  omega

/-! ### Reads -/

section
variable {data : List UInt8} {offset : Nat}

theorem byteAt_at {b : UInt8} {rest : List UInt8} (h : At data (b :: rest) offset) :
    byteAt data offset = .ok b := by
  unfold byteAt
  rw [h.getElem]

theorem readUint32LE_at {b₀ b₁ b₂ b₃ : UInt8} (h : At data [b₀, b₁, b₂, b₃] offset) :
    ∃ x, readUint32LE data offset = .ok x ∧ x.toNat = ofLittleEndian [b₀, b₁, b₂, b₃] := by
  refine ⟨_, ?_, or_bytes32 b₀ b₁ b₂ b₃⟩
  unfold readUint32LE
  rw [byteAt_at h, ok_bind, byteAt_at h.tail, ok_bind, byteAt_at h.tail.tail, ok_bind,
    byteAt_at h.tail.tail.tail, ok_bind]
  rfl

theorem readUint64LE_at {b₀ b₁ b₂ b₃ b₄ b₅ b₆ b₇ : UInt8}
    (h : At data [b₀, b₁, b₂, b₃, b₄, b₅, b₆, b₇] offset) :
    ∃ x, readUint64LE data offset = .ok x ∧
      x.toNat = ofLittleEndian [b₀, b₁, b₂, b₃, b₄, b₅, b₆, b₇] := by
  refine ⟨_, ?_, or_bytes64 b₀ b₁ b₂ b₃ b₄ b₅ b₆ b₇⟩
  have h₄ := h.tail.tail.tail.tail
  unfold readUint64LE
  rw [byteAt_at h, ok_bind, byteAt_at h.tail, ok_bind, byteAt_at h.tail.tail, ok_bind,
    byteAt_at h.tail.tail.tail, ok_bind, byteAt_at h₄, ok_bind, byteAt_at h₄.tail, ok_bind,
    byteAt_at h₄.tail.tail, ok_bind, byteAt_at h₄.tail.tail.tail, ok_bind]
  rfl

/-- A canonical varint is read, and the reader stops behind it. -/
theorem readVarInt_at {n : Nat} (hn : n < 2 ^ 64) (h : At data (varint n) offset) :
    readVarInt data offset = .ok (n, offset + (varint n).length) := by
  unfold readVarInt
  by_cases hsmall : n < 0xfd
  · rw [varint_8 hsmall] at h ⊢
    rw [byteAt_at h, ok_bind, if_pos (ofNat_small hsmall).2, (ofNat_small hsmall).1]
    rfl
  by_cases h16 : n < 2 ^ 16
  · rw [varint_16 hsmall h16] at h ⊢
    have hvalue := ofLittleEndian_littleEndian 2 n
    rw [Nat.mod_eq_of_lt (by omega)] at hvalue
    rw [byteAt_at h, ok_bind, if_neg (by decide), if_pos rfl, byteAt_at h.tail, ok_bind,
      byteAt_at h.tail.tail, ok_bind, or_bytes16]
    exact congrArg (fun v => Except.ok (v, offset + 3)) hvalue
  by_cases h32 : n < 2 ^ 32
  · rw [varint_32 h16 h32] at h ⊢
    have hvalue := ofLittleEndian_littleEndian 4 n
    rw [Nat.mod_eq_of_lt (by omega)] at hvalue
    obtain ⟨x, hx, hxvalue⟩ := readUint32LE_at h.tail
    rw [byteAt_at h, ok_bind, if_neg (by decide), if_neg (by decide), if_pos rfl, hx, ok_bind]
    exact congrArg (fun v => Except.ok (v, offset + 5)) (hxvalue.trans hvalue)
  · rw [varint_64 h32] at h ⊢
    have hvalue := ofLittleEndian_littleEndian 8 n
    rw [Nat.mod_eq_of_lt (by omega)] at hvalue
    obtain ⟨x, hx, hxvalue⟩ := readUint64LE_at h.tail
    rw [byteAt_at h, ok_bind, if_neg (by decide), if_neg (by decide), if_neg (by decide), hx,
      ok_bind]
    exact congrArg (fun v => Except.ok (v, offset + 9)) (hxvalue.trans hvalue)

end

/-! ### The loops -/

section
variable {data rest : List UInt8}

/-- The loop over the inputs stops behind them. -/
theorem skipInputs_at : ∀ {inputs : List TxIn} {offset : Nat},
    (∀ i ∈ inputs, i.script.length < 2 ^ 64) →
    At data (inputs.flatMap TxIn.bytes ++ rest) offset →
    ∃ offset', skipInputs data inputs.length offset = .ok offset' ∧ At data rest offset' := by
  intro inputs
  induction inputs with
  | nil =>
    intro offset _ h
    exact ⟨offset, rfl, h⟩
  | cons i inputs ih =>
    intro offset hscripts h
    rw [List.flatMap_cons, List.append_assoc] at h
    obtain ⟨hlen, hrest⟩ := h.input
    obtain ⟨offset', hskip, hend⟩ := ih (fun j hj => hscripts j (List.mem_cons_of_mem _ hj)) hrest
    refine ⟨offset', ?_, hend⟩
    rw [List.length_cons]
    unfold skipInputs
    rw [readVarInt_at (hscripts i List.mem_cons_self) hlen, ok_bind]
    exact hskip

/-- The loop over `k` outputs stops before the next one. -/
theorem skipOutputs_at : ∀ {k : Nat} {outputs : List TxOut} {offset : Nat},
    k ≤ outputs.length → (∀ o ∈ outputs, o.script.length < 2 ^ 64) →
    At data (outputs.flatMap TxOut.bytes ++ rest) offset →
    ∃ offset', skipOutputs data k offset = .ok offset' ∧
      At data ((outputs.drop k).flatMap TxOut.bytes ++ rest) offset' := by
  intro k
  induction k with
  | zero =>
    intro outputs offset _ _ h
    exact ⟨offset, rfl, h⟩
  | succ k ih =>
    intro outputs offset hk hscripts h
    cases outputs with
    | nil => exact absurd hk (Nat.not_succ_le_zero k)
    | cons o outputs =>
      rw [List.flatMap_cons, List.append_assoc] at h
      obtain ⟨-, hlen, -, hrest⟩ := h.output
      obtain ⟨offset', hskip, hend⟩ := ih (Nat.le_of_succ_le_succ hk)
        (fun o' ho' => hscripts o' (List.mem_cons_of_mem _ ho')) hrest
      refine ⟨offset', ?_, hend⟩
      unfold skipOutputs
      rw [readVarInt_at (hscripts o List.mem_cons_self) hlen, ok_bind]
      exact hskip

theorem copyBytes_at : ∀ {script : List UInt8} {offset : Nat}, At data script offset →
    copyBytes data script.length offset = .ok script := by
  intro script
  induction script with
  | nil => intro offset _; rfl
  | cons b script ih =>
    intro offset h
    rw [List.length_cons]
    unfold copyBytes
    rw [byteAt_at h, ok_bind, ih h.tail]
    rfl

end

/-! ### The parser -/

section
variable {rawTx : List UInt8} {t : Tx}

theorem inputsOffset_legacy (h : t.inputs ≠ []) : inputsOffset t.legacy = .ok 4 := by
  have hbody := t.legacy_at
  unfold Tx.body at hbody
  -- The first byte of the number of inputs is no marker.
  obtain ⟨first, more, hfirst, hne⟩ := varint_head (List.length_pos_iff.mpr h)
  rw [hfirst] at hbody
  unfold inputsOffset
  rw [byteAt_at hbody.left.left.left, ok_bind, if_neg hne]
  rfl

theorem inputsOffset_segwit : inputsOffset t.segwit = .ok 6 := by
  obtain ⟨hmarker, -⟩ := t.segwit_at
  unfold inputsOffset
  rw [byteAt_at hmarker, ok_bind, if_pos rfl, byteAt_at hmarker.tail, ok_bind]
  rfl

/-- From the number of inputs on, the parser returns the output that is asked for. -/
theorem parseTxOutput_at (ht : t.WellFormed) {start : Nat} (hstart : inputsOffset rawTx = .ok start)
    (hbody : At rawTx t.body start) (i : UInt32) :
    parseTxOutput rawTx i = match t.outputs[i.toNat]? with
      | some o => .ok ⟨o.value, o.script⟩
      | none => .error .invalidTxData := by
  unfold Tx.body at hbody
  rw [List.append_assoc, List.append_assoc] at hbody
  obtain ⟨offset, hinputs, hrest⟩ := skipInputs_at ht.input_scripts hbody.right
  unfold parseTxOutput
  rw [hstart, ok_bind, readVarInt_at ht.inputs_lt hbody.left, ok_bind]
  dsimp only
  rw [hinputs, ok_bind, readVarInt_at ht.outputs_lt hrest.left, ok_bind]
  dsimp only
  by_cases hi : i.toNat < t.outputs.length
  · rw [revertIf_of_not _ (by omega), ok_bind, List.getElem?_eq_getElem hi]
    have houtputs := hrest.right
    rw [← List.append_nil (t.outputs.flatMap TxOut.bytes)] at houtputs
    obtain ⟨offset', hskip, hend⟩ := skipOutputs_at hi.le ht.output_scripts houtputs
    rw [List.drop_eq_getElem_cons hi, List.flatMap_cons, List.append_assoc] at hend
    obtain ⟨hvalue, hlen, hscript, -⟩ := hend.output
    obtain ⟨x, hx, hxvalue⟩ := readUint64LE_at hvalue
    rw [hskip, ok_bind, hx, ok_bind,
      readVarInt_at (ht.output_scripts _ (List.getElem_mem hi)) hlen, ok_bind]
    dsimp only
    rw [copyBytes_at hscript, ok_bind]
    have hsame : x = t.outputs[i.toNat].value := by
      have hround := ofLittleEndian_littleEndian 8 t.outputs[i.toNat].value.toNat
      have hlt : t.outputs[i.toNat].value.toNat < 256 ^ 8 := by
        have := UInt64.toNat_lt t.outputs[i.toNat].value
        omega
      rw [Nat.mod_eq_of_lt hlt] at hround
      exact UInt64.toNat_inj.mp (hxvalue.trans hround)
    rw [hsame]
    rfl
  · rw [revertIf_bind_of _ (by omega), List.getElem?_eq_none (by omega)]

end

end Rackline.BitcoinLib

namespace Rackline.BitcoinProver

open Evm TxFormat

/-! ### The prover -/

section
variable {data rest : List UInt8} {offset : Nat}

theorem byteAt_at {b : UInt8} {rest : List UInt8} (h : At data (b :: rest) offset) :
    byteAt data offset = .ok b := by
  unfold byteAt
  rw [h.getElem]

/-- A slice over a word spells it. -/
theorem slice_at {n x : Nat} (h : At data (littleEndian n x) offset) (hx : x < 256 ^ n) :
    ofLittleEndian (slice data offset n) = x := by
  have htake := h.take
  rw [length_littleEndian] at htake
  show ofLittleEndian ((data.drop offset).take n) = x
  rw [htake, ofLittleEndian_littleEndian, Nat.mod_eq_of_lt hx]

/-- A canonical varint is parsed, and the parser stops behind it. -/
theorem parseVarint_at {n : Nat} (hn : n < 2 ^ 64) (h : At data (varint n) offset) :
    parseVarint data offset = .ok (n, offset + (varint n).length) := by
  unfold parseVarint
  by_cases hsmall : n < 0xfd
  · rw [varint_8 hsmall] at h ⊢
    rw [byteAt_at h, ok_bind, if_pos (ofNat_small hsmall).2, (ofNat_small hsmall).1]
    rfl
  by_cases h16 : n < 2 ^ 16
  · rw [varint_16 hsmall h16] at h ⊢
    rw [byteAt_at h, ok_bind, if_neg (by decide), if_pos rfl, slice_at h.tail h16]
    rfl
  by_cases h32 : n < 2 ^ 32
  · rw [varint_32 h16 h32] at h ⊢
    rw [byteAt_at h, ok_bind, if_neg (by decide), if_neg (by decide), if_pos rfl,
      slice_at h.tail h32]
    rfl
  · rw [varint_64 h32] at h ⊢
    rw [byteAt_at h, ok_bind, if_neg (by decide), if_neg (by decide), if_neg (by decide),
      slice_at h.tail hn]
    rfl

/-- The loop over the inputs stops behind them. -/
theorem skipInputs_at : ∀ {inputs : List TxIn} {offset : Nat},
    (∀ i ∈ inputs, i.script.length < 2 ^ 64) →
    At data (inputs.flatMap TxIn.bytes ++ rest) offset →
    ∃ offset', skipInputs data inputs.length offset = .ok offset' ∧ At data rest offset' := by
  intro inputs
  induction inputs with
  | nil =>
    intro offset _ h
    exact ⟨offset, rfl, h⟩
  | cons i inputs ih =>
    intro offset hscripts h
    rw [List.flatMap_cons, List.append_assoc] at h
    obtain ⟨hlen, hrest⟩ := h.input
    obtain ⟨offset', hskip, hend⟩ := ih (fun j hj => hscripts j (List.mem_cons_of_mem _ hj)) hrest
    refine ⟨offset', ?_, hend⟩
    rw [List.length_cons]
    unfold skipInputs
    rw [parseVarint_at (hscripts i List.mem_cons_self) hlen, ok_bind]
    exact hskip

/-- The loop over the outputs returns them. -/
theorem outputsLoop_at : ∀ {outputs : List TxOut} {offset : Nat},
    (∀ o ∈ outputs, o.script.length < 2 ^ 64) → At data (outputs.flatMap TxOut.bytes) offset →
    outputsLoop data outputs.length offset =
      .ok (outputs.map fun o => ⟨o.value.toNat, o.script⟩) := by
  intro outputs
  induction outputs with
  | nil => intro offset _ _; rfl
  | cons o outputs ih =>
    intro offset hscripts h
    rw [List.flatMap_cons] at h
    obtain ⟨hvalue, hlen, hscript, hrest⟩ := h.output
    have hloop := ih (fun o' ho' => hscripts o' (List.mem_cons_of_mem _ ho')) hrest
    rw [List.length_cons]
    unfold outputsLoop
    dsimp only
    rw [slice_at hvalue (UInt64.toNat_lt _),
      parseVarint_at (hscripts o List.mem_cons_self) hlen, ok_bind]
    dsimp only
    rw [hloop, ok_bind]
    have hslice : slice data (offset + 8 + (varint o.script.length).length) o.script.length =
        o.script := hscript.take
    rw [hslice]
    rfl

end

/-- From the number of inputs on, the parser returns the outputs. -/
theorem parseTxOutputs_at {rawTx : List UInt8} {t : Tx} (ht : t.WellFormed) {start : Nat}
    (hbody : At rawTx t.body start) :
    (do
      let (inputCount, offset) ← parseVarint rawTx start
      let offset ← skipInputs rawTx inputCount offset
      let (outputCount, offset) ← parseVarint rawTx offset
      outputsLoop rawTx outputCount offset) =
        .ok (t.outputs.map fun o => (⟨o.value.toNat, o.script⟩ : TxOutput)) := by
  unfold Tx.body at hbody
  rw [List.append_assoc, List.append_assoc] at hbody
  obtain ⟨offset, hinputs, hrest⟩ := skipInputs_at ht.input_scripts hbody.right
  rw [parseVarint_at ht.inputs_lt hbody.left, ok_bind]
  dsimp only
  rw [hinputs, ok_bind, parseVarint_at ht.outputs_lt hrest.left, ok_bind]
  exact outputsLoop_at ht.output_scripts hrest.right

theorem parseTxOutputs_legacy {t : Tx} (ht : t.WellFormed) :
    parseTxOutputs t.legacy = .ok (t.outputs.map fun o => ⟨o.value.toNat, o.script⟩) := by
  have hbody := t.legacy_at
  unfold Tx.body at hbody
  obtain ⟨first, more, hfirst, hne⟩ := varint_head (List.length_pos_iff.mpr ht.inputs_ne)
  rw [hfirst] at hbody
  unfold parseTxOutputs
  rw [byteAt_at hbody.left.left.left, ok_bind, if_neg hne]
  exact parseTxOutputs_at ht t.legacy_at

theorem parseTxOutputs_segwit {t : Tx} (ht : t.WellFormed) :
    parseTxOutputs t.segwit = .ok (t.outputs.map fun o => ⟨o.value.toNat, o.script⟩) := by
  obtain ⟨hmarker, hbody⟩ := t.segwit_at
  unfold parseTxOutputs
  rw [byteAt_at hmarker, ok_bind, if_pos rfl, byteAt_at hmarker.tail, ok_bind]
  exact parseTxOutputs_at ht hbody

/-! ### Both parsers -/

/-- Of either serialization of a well-formed transaction, the contract returns each output at its
index and reverts at every other index, and the prover returns the list of all of them. -/
theorem parse_serialized {t : Tx} (ht : t.WellFormed) {rawTx : List UInt8}
    (hraw : rawTx = t.legacy ∨ rawTx = t.segwit) :
    (∀ (i : UInt32) (o : TxOut), t.outputs[i.toNat]? = some o →
      BitcoinLib.parseTxOutput rawTx i = .ok ⟨o.value, o.script⟩) ∧
    (∀ i : UInt32, t.outputs.length ≤ i.toNat →
      BitcoinLib.parseTxOutput rawTx i = .error .invalidTxData) ∧
    parseTxOutputs rawTx = .ok (t.outputs.map fun o => ⟨o.value.toNat, o.script⟩) := by
  have hcontract : ∀ i, BitcoinLib.parseTxOutput rawTx i = match t.outputs[i.toNat]? with
      | some o => .ok ⟨o.value, o.script⟩
      | none => .error .invalidTxData := by
    intro i
    obtain rfl | rfl := hraw
    · exact BitcoinLib.parseTxOutput_at ht (BitcoinLib.inputsOffset_legacy ht.inputs_ne)
        t.legacy_at i
    · exact BitcoinLib.parseTxOutput_at ht BitcoinLib.inputsOffset_segwit t.segwit_at.2 i
  refine ⟨?_, ?_, ?_⟩
  · intro i o ho
    rw [hcontract, ho]
  · intro i hi
    rw [hcontract, List.getElem?_eq_none hi]
  · obtain rfl | rfl := hraw
    · exact parseTxOutputs_legacy ht
    · exact parseTxOutputs_segwit ht

namespace Sample

/-- A payment to two scripts, with one witness. -/
def payment : Tx where
  version := 2
  inputs := [{ prevTxid := ⟨List.replicate 32 7, rfl⟩, prevVout := 1, script := [], sequence := 0 }]
  outputs := [⟨5000, [0x00, 0x14]⟩, ⟨70000, List.replicate 300 0x51⟩]
  witnesses := [[[1, 2, 3], []]]
  lockTime := 0

theorem payment_wellFormed : payment.WellFormed where
  inputs_ne := List.cons_ne_nil _ _
  inputs_lt := by decide
  outputs_lt := by decide
  input_scripts := by decide
  output_scripts := by
    intro o ho
    obtain rfl | ho := List.mem_cons.mp ho
    · decide
    · obtain rfl := List.mem_singleton.mp ho
      show (List.replicate 300 0x51 : List UInt8).length < 2 ^ 64
      rw [List.length_replicate]
      decide

end Sample

/-- The second output, behind a script of 300 bytes, and no third. -/
theorem parse_serialized_sample :
    BitcoinLib.parseTxOutput Sample.payment.segwit 1 = .ok ⟨70000, List.replicate 300 0x51⟩ ∧
    BitcoinLib.parseTxOutput Sample.payment.segwit 2 = .error .invalidTxData ∧
    parseTxOutputs Sample.payment.legacy =
      .ok [⟨5000, [0x00, 0x14]⟩, ⟨70000, List.replicate 300 0x51⟩] := by
  obtain ⟨hsecond, hthird, -⟩ := parse_serialized Sample.payment_wellFormed (.inr rfl)
  obtain ⟨-, -, hall⟩ := parse_serialized Sample.payment_wellFormed (.inl rfl)
  exact ⟨hsecond 1 _ rfl, hthird 2 (by decide), hall⟩

end Rackline.BitcoinProver
