import Rackline.Lib.LittleEndian

/-!
# `Rackline.Lib.TxFormat`: the serialization of Bitcoin transactions

A transaction is written as a version, its inputs, its outputs and a lock time. Lists and scripts
are preceded by their length as a varint, of which there are four widths (`varint`). The witness
serialization has a marker and a flag behind the version, and the witnesses before the lock time.

`At data bytes offset` says that `data` has `bytes` at `offset`. A reader that is right about each
piece is right about the whole, as a piece ends where the next one begins (`At.left`, `At.right`).
-/

set_option autoImplicit false

namespace TxFormat

/-! ### Bytes at an offset -/

/-- `data` has `bytes` at `offset`. -/
def At (data bytes : List UInt8) (offset : Nat) : Prop := bytes <+: data.drop offset

section
variable {data a b : List UInt8} {offset : Nat}

theorem At.left (h : At data (a ++ b) offset) : At data a offset :=
  (List.prefix_append a b).trans h

theorem At.right (h : At data (a ++ b) offset) : At data b (offset + a.length) := by
  obtain ⟨rest, hrest⟩ := h
  refine ⟨rest, ?_⟩
  rw [← List.drop_drop, ← hrest, List.append_assoc, List.drop_left]

theorem At.take (h : At data a offset) : (data.drop offset).take a.length = a :=
  (List.prefix_iff_eq_take.mp h).symm

theorem At.getElem {x : UInt8} (h : At data (x :: a) offset) : data[offset]? = some x := by
  obtain ⟨rest, hrest⟩ := h
  have hhead := congrArg List.head? hrest
  rw [List.cons_append, List.head?_cons, List.head?_drop] at hhead
  exact hhead.symm

theorem At.tail {x : UInt8} (h : At data (x :: a) offset) : At data a (offset + 1) :=
  At.right (a := [x]) h

/-- All of the data. -/
theorem At.self (data : List UInt8) : At data data 0 := List.prefix_rfl

end

/-! ### Transactions -/

/-- An input. -/
structure TxIn where
  prevTxid : { bytes : List UInt8 // bytes.length = 32 }
  prevVout : UInt32
  script : List UInt8
  sequence : UInt32

/-- An output. -/
structure TxOut where
  value : UInt64
  script : List UInt8
deriving DecidableEq

/-- A transaction, with a witness stack for each input. -/
structure Tx where
  version : UInt32
  inputs : List TxIn
  outputs : List TxOut
  witnesses : List (List (List UInt8))
  lockTime : UInt32

/-- Every length fits a varint, and there is an input. -/
structure Tx.WellFormed (t : Tx) : Prop where
  inputs_ne : t.inputs ≠ []
  inputs_lt : t.inputs.length < 2 ^ 64
  outputs_lt : t.outputs.length < 2 ^ 64
  input_scripts : ∀ i ∈ t.inputs, i.script.length < 2 ^ 64
  output_scripts : ∀ o ∈ t.outputs, o.script.length < 2 ^ 64

/-- The canonical varint of a number. -/
def varint (n : Nat) : List UInt8 :=
  if n < 0xfd then [UInt8.ofNat n]
  else if n < 2 ^ 16 then 0xfd :: littleEndian 2 n
  else if n < 2 ^ 32 then 0xfe :: littleEndian 4 n
  else 0xff :: littleEndian 8 n

/-- A script behind its length. -/
def scriptBytes (script : List UInt8) : List UInt8 := varint script.length ++ script

/-- An input. -/
def TxIn.bytes (i : TxIn) : List UInt8 :=
  i.prevTxid.1 ++ littleEndian 4 i.prevVout.toNat ++ scriptBytes i.script ++
    littleEndian 4 i.sequence.toNat

/-- An output. -/
def TxOut.bytes (o : TxOut) : List UInt8 := littleEndian 8 o.value.toNat ++ scriptBytes o.script

/-- The inputs and the outputs, each behind their number. -/
def Tx.body (t : Tx) : List UInt8 :=
  varint t.inputs.length ++ t.inputs.flatMap TxIn.bytes ++ varint t.outputs.length ++
    t.outputs.flatMap TxOut.bytes

/-- The witness stacks, each behind its height. -/
def Tx.witnessBytes (t : Tx) : List UInt8 :=
  t.witnesses.flatMap fun stack => varint stack.length ++ stack.flatMap scriptBytes

/-- The serialization without witnesses. -/
def Tx.legacy (t : Tx) : List UInt8 :=
  littleEndian 4 t.version.toNat ++ t.body ++ littleEndian 4 t.lockTime.toNat

/-- The serialization with witnesses: a marker and a flag stand behind the version. -/
def Tx.segwit (t : Tx) : List UInt8 :=
  littleEndian 4 t.version.toNat ++ [0x00, 0x01] ++ t.body ++ t.witnessBytes ++
    littleEndian 4 t.lockTime.toNat

section
variable {n : Nat}

theorem varint_8 (h : n < 0xfd) : varint n = [UInt8.ofNat n] := if_pos h

theorem varint_16 (h : ¬ n < 0xfd) (h16 : n < 2 ^ 16) : varint n = 0xfd :: littleEndian 2 n := by
  unfold varint
  rw [if_neg h, if_pos h16]

theorem varint_32 (h : ¬ n < 2 ^ 16) (h32 : n < 2 ^ 32) :
    varint n = 0xfe :: littleEndian 4 n := by
  unfold varint
  rw [if_neg (by omega), if_neg h, if_pos h32]

theorem varint_64 (h : ¬ n < 2 ^ 32) : varint n = 0xff :: littleEndian 8 n := by
  unfold varint
  rw [if_neg (by omega), if_neg (by omega), if_neg h]

/-- The one byte of a short varint. -/
theorem ofNat_small (h : n < 0xfd) : (UInt8.ofNat n).toNat = n ∧ UInt8.ofNat n < 0xfd := by
  have hnat : (UInt8.ofNat n).toNat = n := by
    rw [UInt8.toNat_ofNat']
    omega
  refine ⟨hnat, ?_⟩
  rw [UInt8.lt_iff_toNat_lt, hnat]
  exact h

end

/-- The number of inputs is not read as the marker. -/
theorem varint_head {n : Nat} (h : 0 < n) : ∃ first rest, varint n = first :: rest ∧ first ≠ 0 := by
  unfold varint
  split
  · refine ⟨UInt8.ofNat n, [], rfl, ?_⟩
    intro hzero
    have hnat := congrArg UInt8.toNat hzero
    rw [UInt8.toNat_ofNat'] at hnat
    have h0 : (0 : UInt8).toNat = 0 := rfl
    omega
  split
  · exact ⟨_, _, rfl, by decide⟩
  split
  · exact ⟨_, _, rfl, by decide⟩
  · exact ⟨_, _, rfl, by decide⟩

section
variable {data rest : List UInt8} {offset : Nat}

/-- The script length of an input, and what stands behind the input. -/
theorem At.input {i : TxIn} (h : At data (i.bytes ++ rest) offset) :
    At data (varint i.script.length) (offset + 32 + 4) ∧
    At data rest (offset + 32 + 4 + (varint i.script.length).length + i.script.length + 4) := by
  unfold TxIn.bytes scriptBytes at h
  have hscript := h.left.left.right.left
  have hrest := h.right
  simp only [List.length_append, length_littleEndian, i.prevTxid.2] at hscript hrest
  refine ⟨hscript, ?_⟩
  have hend : offset + 32 + 4 + (varint i.script.length).length + i.script.length + 4 =
      offset + (32 + 4 + ((varint i.script.length).length + i.script.length) + 4) := by omega
  rwa [hend]

/-- The value, the script length and the script of an output, and what stands behind the output. -/
theorem At.output {o : TxOut} (h : At data (o.bytes ++ rest) offset) :
    At data (littleEndian 8 o.value.toNat) offset ∧
    At data (varint o.script.length) (offset + 8) ∧
    At data o.script (offset + 8 + (varint o.script.length).length) ∧
    At data rest (offset + 8 + (varint o.script.length).length + o.script.length) := by
  unfold TxOut.bytes scriptBytes at h
  have hscript := h.left.right
  have hrest := h.right
  simp only [List.length_append, length_littleEndian] at hscript hrest
  refine ⟨h.left.left, hscript.left, hscript.right, ?_⟩
  have hend : offset + 8 + (varint o.script.length).length + o.script.length =
      offset + (8 + ((varint o.script.length).length + o.script.length)) := by omega
  rwa [hend]

end

section
variable (t : Tx)

/-- Behind the version of the legacy serialization stands the number of inputs. -/
theorem Tx.legacy_at : At t.legacy t.body 4 := by
  have h : At t.legacy t.body (0 + (littleEndian 4 t.version.toNat).length) :=
    (At.self t.legacy).left.right
  rwa [length_littleEndian] at h

/-- Behind the version of the witness serialization stand the marker, the flag and the number of
inputs. -/
theorem Tx.segwit_at : At t.segwit [0x00, 0x01] 4 ∧ At t.segwit t.body 6 := by
  have h : At t.segwit ([0x00, 0x01] ++ t.body) (0 + (littleEndian 4 t.version.toNat).length) := by
    have hself := (At.self t.segwit).left.left
    rw [List.append_assoc] at hself
    exact hself.right
  rw [length_littleEndian] at h
  exact ⟨h.left, h.right⟩

end

end TxFormat
