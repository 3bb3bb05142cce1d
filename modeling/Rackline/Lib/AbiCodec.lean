import Rackline.Evm.Bytes
import Rackline.Lib.TxFormat

/-!
# `Rackline.Lib.AbiCodec`: contract data with heads and tails

The binary format of contract calls, as codecs that are put together. A value is static or dynamic.
A tuple is a run of heads and behind it the tails: a static component is written in its head, and
of a dynamic one the head has the offset of its tail, counted from where the tuple starts. An array
is its length and the tuple of its elements, and a string of bytes is its length and the bytes,
filled up to whole words.

A `Codec` carries the proof that what it wrote is read back, wherever in the data it stands and
whatever stands around it (`Codec.decode_at`). So a codec that is put together from others reads
back what it wrote by construction, and `Codec.decode_encode` is the round trip.

The readers are those of a contract, with positions in one buffer: an offset or a length of 64 bits
or more is refused, and so are a head, an array or a string that ends behind the data and a word
that does not fit its type. They do not ask where a tail stands, or what fills up the last word.
-/

set_option autoImplicit false

namespace AbiCodec

open Evm TxFormat

/-! ### Words -/

/-- The word at a position. -/
def wordAt (data : List UInt8) (pos : Nat) : Option Nat :=
  let chunk := (data.drop pos).take 32
  if chunk.length = 32 then some (ofBigEndian chunk) else none

/-- An offset or a length: a word below `2^64`. -/
def sizeAt (data : List UInt8) (pos : Nat) : Option Nat := do
  let n ← wordAt data pos
  if n < 2 ^ 64 then some n else none

section
variable {data e : List UInt8} {pos n : Nat}

/-- What stands in the data ends in the data. -/
theorem end_le (h : At data e pos) (hpos : pos ≤ data.length) : pos + e.length ≤ data.length := by
  have hle := h.length_le
  rw [List.length_drop] at hle
  omega

theorem wordAt_at (hn : n < 2 ^ 256) (h : At data (bigEndian 32 n) pos) :
    wordAt data pos = some n := by
  have hlen : (bigEndian 32 n).length = 32 := length_bigEndian 32 n
  have hchunk : (data.drop pos).take 32 = bigEndian 32 n := by
    have htake := h.take
    rwa [hlen] at htake
  have hsize : (256 : Nat) ^ 32 = 2 ^ 256 := by decide
  unfold wordAt
  simp only [hchunk, hlen, if_true, ofBigEndian_bigEndian, hsize, Nat.mod_eq_of_lt hn]

theorem sizeAt_at (hn : n < 2 ^ 64) (h : At data (bigEndian 32 n) pos) :
    sizeAt data pos = some n := by
  have hword := wordAt_at (Nat.lt_trans hn (by decide)) h
  simp only [sizeAt, hword, Option.bind_eq_bind, Option.bind_some, if_pos hn]

end

/-! ### Codecs -/

/-- A way to write values and to read them at a position of the data. -/
structure Codec (α : Type) where
  dynamic : Bool
  /-- The length of what a static codec writes. -/
  size : Nat
  encode : α → List UInt8
  decode : List UInt8 → Nat → Option α
  length_encode : dynamic = false → ∀ a, (encode a).length = size
  /-- What was written is read back where it stands. -/
  decode_at : ∀ {data : List UInt8} {pos : Nat} {a : α}, pos ≤ data.length →
    data.length < 2 ^ 64 → At data (encode a) pos → decode data pos = some a

namespace Codec

variable {α β : Type}

/-- The length of a head. -/
def headSize (c : Codec α) : Nat := if c.dynamic then 32 else c.size

/-- The round trip, on data that is nothing else. -/
theorem decode_encode (c : Codec α) (a : α) (h : (c.encode a).length < 2 ^ 64) :
    c.decode (c.encode a) 0 = some a :=
  c.decode_at (Nat.zero_le _) h (.self _)

/-- Words below a bound. -/
def word (bound : Nat) (hbound : bound ≤ 2 ^ 256) : Codec (Fin bound) where
  dynamic := false
  size := 32
  encode n := bigEndian 32 n.val
  decode data pos := do
    let n ← wordAt data pos
    if h : n < bound then some ⟨n, h⟩ else none
  length_encode _ n := length_bigEndian 32 n.val
  decode_at {data pos n} _ _ h := by
    have hword := wordAt_at (Nat.lt_of_lt_of_le n.isLt hbound) h
    simp [hword]

/-- `uint256`. -/
def uint256 : Codec (Fin (2 ^ 256)) := word (2 ^ 256) (by decide)

/-- `uint160`. -/
def uint160 : Codec (Fin (2 ^ 160)) := word (2 ^ 160) (by decide)

/-- `bytes` is filled up to whole words. -/
def padding (n : Nat) : List UInt8 := List.replicate ((32 - n % 32) % 32) 0

/-- Strings of bytes. -/
def bytes : Codec (List UInt8) where
  dynamic := true
  size := 0
  encode a := bigEndian 32 a.length ++ (a ++ padding a.length)
  decode data pos := do
    let n ← sizeAt data pos
    if pos + 32 + n ≤ data.length then some ((data.drop (pos + 32)).take n) else none
  length_encode h := by cases h
  decode_at {data pos a} hpos hdata h := by
    have hend := end_le h hpos
    have hbody : At data a (pos + 32) := by
      have hright := h.right.left
      rwa [length_bigEndian] at hright
    simp only [List.length_append, length_bigEndian] at hend
    have hsize := sizeAt_at (n := a.length) (by omega) h.left
    simp only [hsize, Option.bind_eq_bind, Option.bind_some]
    rw [if_pos (by omega), hbody.take]

/-- Another way to look at the values. -/
def map (c : Codec α) (to_ : α → Option β) (of_ : β → α) (h : ∀ b, to_ (of_ b) = some b) :
    Codec β where
  dynamic := c.dynamic
  size := c.size
  encode b := c.encode (of_ b)
  decode data pos := (c.decode data pos).bind to_
  length_encode hs b := c.length_encode hs (of_ b)
  decode_at hpos hdata hat := by rw [c.decode_at hpos hdata hat, Option.bind_some, h]

/-- Read the component with its head at `cur`, of a tuple at `base`. -/
def decodeHead (c : Codec α) (data : List UInt8) (base cur : Nat) : Option α :=
  if c.dynamic then do
    let offset ← sizeAt data cur
    c.decode data (base + offset)
  else c.decode data cur

/-- The head of a component, the tails being at `offset`. -/
def head (c : Codec α) (offset : Nat) (a : α) : List UInt8 :=
  if c.dynamic then bigEndian 32 offset else c.encode a

/-- The tail of a component. -/
def tail (c : Codec α) (a : α) : List UInt8 := if c.dynamic then c.encode a else []

theorem length_head (c : Codec α) (offset : Nat) (a : α) :
    (c.head offset a).length = c.headSize := by
  unfold head headSize
  cases hs : c.dynamic with
  | true => simp
  | false => simp [c.length_encode hs]

/-- A tail is part of the tails. -/
theorem length_tail_le (c : Codec α) {a : α} {as : List α} (h : a ∈ as) :
    (c.tail a).length ≤ (as.flatMap c.tail).length := by
  induction as with
  | nil => cases h
  | cons b as ih =>
    rw [List.flatMap_cons, List.length_append]
    cases h with
    | head => omega
    | tail _ h =>
      have hle := ih h
      omega

/-- A component is read back by its head and its tail. -/
theorem decodeHead_at (c : Codec α) {data : List UInt8} {base cur offset : Nat} {a : α}
    (hcur : cur ≤ data.length) (hoffset : base + offset ≤ data.length)
    (hdata : data.length < 2 ^ 64) (hhead : At data (c.head offset a) cur)
    (htail : At data (c.tail a) (base + offset)) : c.decodeHead data base cur = some a := by
  unfold decodeHead
  unfold head at hhead
  unfold tail at htail
  cases hs : c.dynamic with
  | true =>
    simp only [hs, if_true] at hhead htail ⊢
    have hsize := sizeAt_at (n := offset) (by omega) hhead
    simp only [hsize, Option.bind_eq_bind, Option.bind_some]
    exact c.decode_at hoffset hdata htail
  | false =>
    simp only [hs, Bool.false_eq_true, if_false] at hhead ⊢
    exact c.decode_at hcur hdata hhead

end Codec

/-! ### Tuples -/

/-- The components of a tuple, one after another. `encode offset` writes the heads and the tails,
where the tails stand `offset` behind the start of the tuple. -/
structure Fields (α : Type) where
  dynamic : Bool
  headSize : Nat
  heads : Nat → α → List UInt8
  tails : α → List UInt8
  decode : List UInt8 → Nat → Nat → Option α
  length_heads : ∀ offset a, (heads offset a).length = headSize
  tails_static : dynamic = false → ∀ a, tails a = []
  decode_at : ∀ {data : List UInt8} {base cur offset : Nat} {a : α}, cur ≤ data.length →
    base + offset ≤ data.length → data.length < 2 ^ 64 → At data (heads offset a) cur →
    At data (tails a) (base + offset) → decode data base cur = some a

namespace Fields

variable {α β : Type}

/-- No component. -/
def nil : Fields Unit where
  dynamic := false
  headSize := 0
  heads _ _ := []
  tails _ := []
  decode _ _ _ := some ()
  length_heads _ _ := rfl
  tails_static _ _ := rfl
  decode_at _ _ _ _ _ := rfl

/-- One component more, in front. -/
def cons (c : Codec α) (fs : Fields β) : Fields (α × β) where
  dynamic := c.dynamic || fs.dynamic
  headSize := c.headSize + fs.headSize
  heads offset a := c.head offset a.1 ++ fs.heads (offset + (c.tail a.1).length) a.2
  tails a := c.tail a.1 ++ fs.tails a.2
  decode data base cur := do
    let a ← c.decodeHead data base cur
    let b ← fs.decode data base (cur + c.headSize)
    return (a, b)
  length_heads offset a := by simp [c.length_head, fs.length_heads]
  tails_static h a := by
    obtain ⟨hc, hfs⟩ := Bool.or_eq_false_iff.mp h
    simp [Codec.tail, hc, fs.tails_static hfs]
  decode_at {data base cur offset a} hcur hoffset hdata hheads htails := by
    have hhead := hheads.right
    rw [c.length_head] at hhead
    have hcur' := end_le hheads.left hcur
    rw [c.length_head] at hcur'
    have hoffset' := end_le htails.left hoffset
    have htail := htails.right
    rw [Nat.add_assoc] at hoffset' htail
    simp only [c.decodeHead_at hcur hoffset hdata hheads.left htails.left,
      fs.decode_at hcur' hoffset' hdata hhead htail]
    rfl

/-- The elements of an array: so many components of one codec. -/
def elementHeads (c : Codec α) : Nat → List α → List UInt8
  | _, [] => []
  | offset, a :: as => c.head offset a ++ elementHeads c (offset + (c.tail a).length) as

/-- The tails of the elements. -/
def elementTails (c : Codec α) (as : List α) : List UInt8 := as.flatMap c.tail

/-- Read so many elements, the first one's head being at `cur`. -/
def decodeElements (c : Codec α) (data : List UInt8) (base : Nat) : Nat → Nat → Option (List α)
  | 0, _ => some []
  | n + 1, cur => do
    let a ← c.decodeHead data base cur
    let as ← decodeElements c data base n (cur + c.headSize)
    return a :: as

theorem length_elementHeads (c : Codec α) (as : List α) (offset : Nat) :
    (elementHeads c offset as).length = as.length * c.headSize := by
  induction as generalizing offset with
  | nil => simp [elementHeads]
  | cons a as ih => simp [elementHeads, c.length_head, ih, Nat.succ_mul, Nat.add_comm]

theorem decodeElements_at (c : Codec α) {data : List UInt8} {base : Nat}
    (hdata : data.length < 2 ^ 64) (as : List α) {cur offset : Nat} (hcur : cur ≤ data.length)
    (hoffset : base + offset ≤ data.length) (hheads : At data (elementHeads c offset as) cur)
    (htails : At data (elementTails c as) (base + offset)) :
    decodeElements c data base as.length cur = some as := by
  induction as generalizing cur offset with
  | nil => rfl
  | cons a as ih =>
    have hhead : At data (c.head offset a ++ elementHeads c (offset + (c.tail a).length) as) cur :=
      hheads
    have htail : At data (c.tail a ++ elementTails c as) (base + offset) := htails
    -- The rest stands behind the head and behind the tail of the first element.
    have hrest := hhead.right
    have hcur' := end_le hhead.left hcur
    rw [c.length_head] at hrest hcur'
    have hoffset' := end_le htail.left hoffset
    have hrest' := htail.right
    rw [Nat.add_assoc] at hoffset' hrest'
    show ((c.decodeHead data base cur).bind fun a =>
      (decodeElements c data base as.length (cur + c.headSize)).bind fun as => some (a :: as)) = _
    rw [c.decodeHead_at hcur hoffset hdata hhead.left htail.left, Option.bind_some,
      ih hcur' hoffset' hrest hrest']
    rfl

end Fields

namespace Codec

variable {α : Type}

/-- Tuples. -/
def tuple (fs : Fields α) : Codec α where
  dynamic := fs.dynamic
  size := fs.headSize
  encode a := fs.heads fs.headSize a ++ fs.tails a
  decode data pos := if pos + fs.headSize ≤ data.length then fs.decode data pos pos else none
  length_encode h a := by simp [fs.length_heads, fs.tails_static h]
  decode_at {data pos a} hpos hdata h := by
    have hend := end_le h.left hpos
    have htail := h.right
    rw [fs.length_heads] at hend htail
    rw [if_pos hend]
    exact fs.decode_at hpos hend hdata h.left htail

/-- Arrays. An element takes some room, so that no array is longer than the data. -/
def array (c : Codec α) (hroom : 0 < c.headSize) : Codec (List α) where
  dynamic := true
  size := 0
  encode as := bigEndian 32 as.length ++
    (Fields.elementHeads c (as.length * c.headSize) as ++ Fields.elementTails c as)
  decode data pos := do
    let n ← sizeAt data pos
    if pos + 32 + n * c.headSize ≤ data.length then
      Fields.decodeElements c data (pos + 32) n (pos + 32)
    else none
  length_encode h := by cases h
  decode_at {data pos as} hpos hdata h := by
    have hlength := end_le h.left hpos
    have hheads := h.right.left
    have htails := h.right.right
    rw [length_bigEndian] at hlength hheads htails
    have hend := end_le hheads hlength
    rw [Fields.length_elementHeads] at hend htails
    have hcount : as.length ≤ as.length * c.headSize := Nat.le_mul_of_pos_right _ hroom
    have hsize := sizeAt_at (n := as.length) (by omega) h.left
    simp only [hsize, Option.bind_eq_bind, Option.bind_some]
    rw [if_pos hend]
    exact Fields.decodeElements_at c hdata as hlength hend hheads htails

end Codec

end AbiCodec
