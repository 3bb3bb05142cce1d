import Rackline.Evm.Storage
import Rackline.Lib.Sum
import Rackline.Lib.Transition

/-!
# `Rackline.Lib.ShareQueue`: a share register with a redemption queue and closed cohorts

The abstract book of a pool of shares. Shares belong to an epoch. In the current epoch they
are minted, burned and moved, and an owner can queue some of them for redemption, which locks
them. The queue is served from its head, in order of request, in whole or in part. Closing an
epoch freezes its shares for good: the holders then share what is received for that epoch,
pro rata and in whole units, and claim it whenever they like.

`Step` is one move of the book. Three invariants say what every run keeps: `WF` (the register
and the queue), `Reserves` (the cash set aside for served requests) and `Cohorts` (the cash
set aside for closed epochs). `step_frozen` says that a closed epoch never changes.
-/

set_option autoImplicit false

namespace ShareQueue

open Finset Evm

/-- A redemption request: `remaining` shares still queued, `reserved` cash set aside for the
served ones, of which `claimed` was paid. -/
structure Request (O : Type) where
  owner : O
  epoch : Nat
  remaining : Nat
  reserved : Nat
  claimed : Nat

/-- The book of the pool. -/
structure Book (O : Type) where
  epoch : Nat
  totalShares : Nat
  shares : Nat → O → Nat
  locked : Nat → O → Nat
  pending : Nat
  next : Nat
  head : Nat
  requests : Nat → Request O
  withdrawalReserved : Nat
  closedShares : Nat → Nat
  received : Nat → Nat
  claimed : Nat → O → Nat
  recoveryReserved : Nat

variable {O : Type} [DecidableEq O]

/-- Shares a request still queues in the epoch `e`. -/
def Request.pendingIn (r : Request O) (e : Nat) : Nat := if r.epoch = e then r.remaining else 0

/-- Shares a request locks for the owner `o` in the epoch `e`. -/
def Request.lockedFor (r : Request O) (e : Nat) (o : O) : Nat :=
  if r.epoch = e ∧ r.owner = o then r.remaining else 0

namespace Book

/-- Shares of `o` in the current epoch that are not queued cover `n`. -/
def Unlocked (b : Book O) (o : O) (n : Nat) : Prop :=
  n + b.locked b.epoch o ≤ b.shares b.epoch o

/-- Mint `n` shares to `o`. -/
def mint (b : Book O) (o : O) (n : Nat) : Book O :=
  { b with
    totalShares := b.totalShares + n
    shares := set2 b.shares b.epoch o (b.shares b.epoch o + n) }

/-- Burn `n` shares of `o`. -/
def burn (b : Book O) (o : O) (n : Nat) : Book O :=
  { b with
    totalShares := b.totalShares - n
    shares := set2 b.shares b.epoch o (b.shares b.epoch o - n) }

/-- Move `n` shares from `o` to `o'`. -/
def move (b : Book O) (o o' : O) (n : Nat) : Book O :=
  let debited := set2 b.shares b.epoch o (b.shares b.epoch o - n)
  { b with shares := set2 debited b.epoch o' (debited b.epoch o' + n) }

/-- Queue `n` shares of `o`. -/
def request (b : Book O) (o : O) (n : Nat) : Book O :=
  { b with
    next := b.next + 1
    requests := Function.update b.requests b.next
      { owner := o, epoch := b.epoch, remaining := n, reserved := 0, claimed := 0 }
    locked := set2 b.locked b.epoch o (b.locked b.epoch o + n)
    pending := b.pending + n }

/-- Take the remaining shares of a request out of the queue. -/
def cancel (b : Book O) (id : Nat) : Book O :=
  let r := b.requests id
  { b with
    locked := set2 b.locked r.epoch r.owner (b.locked r.epoch r.owner - r.remaining)
    pending := b.pending - r.pendingIn b.epoch
    requests := Function.update b.requests id { r with remaining := 0 } }

/-- Unlock `n` shares of the head request and set `assets` aside for them. -/
def serve (b : Book O) (n assets : Nat) : Book O :=
  let r := b.requests b.head
  { b with
    requests := Function.update b.requests b.head
      { r with remaining := r.remaining - n, reserved := r.reserved + assets }
    locked := set2 b.locked b.epoch r.owner (b.locked b.epoch r.owner - n)
    pending := b.pending - n
    withdrawalReserved := b.withdrawalReserved + assets }

/-- Fill `n` shares of the head request for `assets`: serve them and burn them. -/
def fill (b : Book O) (n assets : Nat) : Book O :=
  (b.serve n assets).burn (b.requests b.head).owner n

/-- Pass the head request. -/
def advance (b : Book O) : Book O := { b with head := b.head + 1 }

/-- Close the epoch with `residual` cash for its holders. -/
def close (b : Book O) (residual : Nat) : Book O :=
  { b with
    received := Function.update b.received b.epoch (b.received b.epoch + residual)
    recoveryReserved := b.recoveryReserved + residual
    closedShares := Function.update b.closedShares b.epoch b.totalShares
    epoch := b.epoch + 1
    totalShares := 0
    pending := 0
    head := b.next }

/-- Cash for the holders of the closed epoch `e`. -/
def receive (b : Book O) (e amount : Nat) : Book O :=
  { b with
    received := Function.update b.received e (b.received e + amount)
    recoveryReserved := b.recoveryReserved + amount }

/-- Pay `amount` of a served request. -/
def claim (b : Book O) (id amount : Nat) : Book O :=
  let r := b.requests id
  { b with
    requests := Function.update b.requests id { r with claimed := r.claimed + amount }
    withdrawalReserved := b.withdrawalReserved - amount }

/-- Pay `amount` of the cash of the closed epoch `e` to `o`. -/
def claimRecovery (b : Book O) (e : Nat) (o : O) (amount : Nat) : Book O :=
  { b with
    claimed := set2 b.claimed e o (b.claimed e o + amount)
    recoveryReserved := b.recoveryReserved - amount }

/-- What the holder `o` of the closed epoch `e` has earned so far, in whole units. -/
def earned (b : Book O) (e : Nat) (o : O) : Nat := b.received e * b.shares e o / b.closedShares e

end Book

/-- One move of the book. -/
inductive Step : Book O → Book O → Prop
  | mint (b : Book O) (o : O) (n : Nat) : Step b (b.mint o n)
  | burn (b : Book O) (o : O) (n : Nat) (h : b.Unlocked o n) : Step b (b.burn o n)
  | move (b : Book O) (o o' : O) (n : Nat) (h : b.Unlocked o n) : Step b (b.move o o' n)
  | request (b : Book O) (o : O) (n : Nat) (h : b.Unlocked o n) : Step b (b.request o n)
  | cancel (b : Book O) (id : Nat) (h : (b.requests id).remaining ≠ 0) : Step b (b.cancel id)
  | fill (b : Book O) (n assets : Nat) (hn : n ≠ 0) (h : n ≤ (b.requests b.head).remaining)
      (he : (b.requests b.head).epoch = b.epoch) : Step b (b.fill n assets)
  | advance (b : Book O) (hlt : b.head < b.next)
      (h : (b.requests b.head).remaining = 0 ∨ (b.requests b.head).epoch ≠ b.epoch) :
      Step b b.advance
  | close (b : Book O) (residual : Nat) (h : b.totalShares ≠ 0) : Step b (b.close residual)
  | receive (b : Book O) (e amount : Nat) (h₁ : e ≠ 0) (h₂ : e < b.epoch) :
      Step b (b.receive e amount)
  | claim (b : Book O) (id amount : Nat)
      (h : (b.requests id).claimed + amount = (b.requests id).reserved) : Step b (b.claim id amount)
  | claimRecovery (b : Book O) (e : Nat) (o : O) (amount : Nat) (he : e < b.epoch)
      (h : b.claimed e o + amount = b.earned e o) : Step b (b.claimRecovery e o amount)

/-- Any number of moves. -/
def Run : Book O → Book O → Prop := Relation.ReflTransGen Step

theorem Run.invariant {P : Book O → Prop} (hstep : ∀ b b', P b → Step b b' → P b')
    {b b' : Book O} (hrun : Run b b') (h : P b) : P b' := by
  induction hrun with
  | refl => exact h
  | tail _ hs ih => exact hstep _ _ ih hs

/-! ### A closed epoch never changes -/

/-- `b'` is later than `b`: the epoch has not gone back, and the shares and the supply of every
epoch closed in `b` are the same. -/
structure Frozen (b b' : Book O) : Prop where
  epoch_le : b.epoch ≤ b'.epoch
  shares : ∀ e, e < b.epoch → b'.shares e = b.shares e
  closedShares : ∀ e, e < b.epoch → b'.closedShares e = b.closedShares e

omit [DecidableEq O] in
theorem Frozen.refl (b : Book O) : Frozen b b :=
  ⟨Nat.le_refl _, fun _ _ => rfl, fun _ _ => rfl⟩

omit [DecidableEq O] in
theorem Frozen.trans {b b' b'' : Book O} (h : Frozen b b') (h' : Frozen b' b'') : Frozen b b'' where
  epoch_le := h.epoch_le.trans h'.epoch_le
  shares e he := (h'.shares e (Nat.lt_of_lt_of_le he h.epoch_le)).trans (h.shares e he)
  closedShares e he :=
    (h'.closedShares e (Nat.lt_of_lt_of_le he h.epoch_le)).trans (h.closedShares e he)

/-- A move writes shares of the current epoch only, and only a close changes the epoch. -/
theorem step_frozen {b b' : Book O} (h : Step b b') : Frozen b b' := by
  cases h with
  | mint o n =>
    exact ⟨Nat.le_refl _, fun e he => set2_row_of_ne _ _ _ (Nat.ne_of_lt he), fun _ _ => rfl⟩
  | burn o n _ =>
    exact ⟨Nat.le_refl _, fun e he => set2_row_of_ne _ _ _ (Nat.ne_of_lt he), fun _ _ => rfl⟩
  | move o o' n _ =>
    refine ⟨Nat.le_refl _, fun e he => ?_, fun _ _ => rfl⟩
    have hne : e ≠ b.epoch := Nat.ne_of_lt he
    exact (set2_row_of_ne _ _ _ hne).trans (set2_row_of_ne _ _ _ hne)
  | fill n assets _ _ _ =>
    exact ⟨Nat.le_refl _, fun e he => set2_row_of_ne _ _ _ (Nat.ne_of_lt he), fun _ _ => rfl⟩
  | close residual _ =>
    exact ⟨Nat.le_succ _, fun _ _ => rfl,
      fun e he => Function.update_of_ne (Nat.ne_of_lt he) _ _⟩
  | request | cancel | advance | receive | claim | claimRecovery =>
    exact ⟨Nat.le_refl _, fun _ _ => rfl, fun _ _ => rfl⟩

theorem run_frozen {b b' : Book O} (h : Run b b') : Frozen b b' := by
  induction h with
  | refl => exact Frozen.refl _
  | tail _ hs ih => exact ih.trans (step_frozen hs)

/-! ### The register and the queue -/

variable [Fintype O]

/-- The register and the queue agree with their running totals.

- `total`: the supply is the sum of the current balances;
- `future`: no shares exist in an epoch that has not begun;
- `fresh`, `past`: a request that was not made is empty, and none is from a later epoch;
- `pending`, `locked`: the two totals of queued shares;
- `locked_le`: queued shares are held;
- `served`: requests of this epoch before the head are served, cancelled or expired. -/
structure WF (b : Book O) : Prop where
  epoch_pos : b.epoch ≠ 0
  total : b.totalShares = ∑ o, b.shares b.epoch o
  future : ∀ e, b.epoch < e → ∀ o, b.shares e o = 0
  fresh : ∀ id, b.next ≤ id → (b.requests id).remaining = 0
  past : ∀ id, (b.requests id).epoch ≤ b.epoch
  pending : b.pending = ∑ id ∈ range b.next, (b.requests id).pendingIn b.epoch
  locked : ∀ e o, b.locked e o = ∑ id ∈ range b.next, (b.requests id).lockedFor e o
  locked_le : ∀ e o, b.locked e o ≤ b.shares e o
  head_le : b.head ≤ b.next
  served : ∀ id, id < b.head → (b.requests id).epoch = b.epoch → (b.requests id).remaining = 0

section
variable {b : Book O}

theorem WF.mem_range_of_remaining (h : WF b) {id : Nat}
    (hr : (b.requests id).remaining ≠ 0) : id ∈ range b.next :=
  mem_range.mpr (Nat.lt_of_not_le fun hle => hr (h.fresh id hle))

/-- A request locks at most what its owner has locked. -/
theorem WF.lockedFor_le (h : WF b) {id : Nat} (hr : (b.requests id).remaining ≠ 0) (e : Nat)
    (o : O) : (b.requests id).lockedFor e o ≤ b.locked e o := by
  rw [h.locked]
  exact single_le_sum (f := fun i => (b.requests i).lockedFor e o) (fun _ _ => Nat.zero_le _)
    (h.mem_range_of_remaining hr)

theorem WF.pendingIn_le (h : WF b) {id : Nat} (hr : (b.requests id).remaining ≠ 0) :
    (b.requests id).pendingIn b.epoch ≤ b.pending := by
  rw [h.pending]
  exact single_le_sum (f := fun i => (b.requests i).pendingIn b.epoch) (fun _ _ => Nat.zero_le _)
    (h.mem_range_of_remaining hr)

/-- Unlocked shares of one owner are part of the supply. -/
theorem WF.le_totalShares (h : WF b) {o : O} {n : Nat} (hu : b.Unlocked o n) :
    n ≤ b.totalShares := by
  have := Total.le_sum_univ (b.shares b.epoch) o
  rw [h.total]
  unfold Book.Unlocked at hu
  omega

/-- The supply after one balance of the current epoch was rewritten. -/
theorem WF.sum_shares_set2 (h : WF b) (o : O) (v : Nat) :
    ∑ x, set2 b.shares b.epoch o v b.epoch x + b.shares b.epoch o = b.totalShares + v := by
  rw [set2_row, Total.sum_update, h.total]

theorem WF.mint (h : WF b) (o : O) (n : Nat) : WF (b.mint o n) where
  epoch_pos := h.epoch_pos
  total := by
    have := h.sum_shares_set2 o (b.shares b.epoch o + n)
    simp only [Book.mint]
    omega
  future e he x := by
    have hne : e ≠ b.epoch := Nat.ne_of_gt he
    simpa [Book.mint, set2_row_of_ne _ _ _ hne] using h.future e he x
  fresh := h.fresh
  past := h.past
  pending := h.pending
  locked := h.locked
  locked_le e x := by
    have hle := h.locked_le e x
    simp only [Book.mint, set2_apply]
    split
    · rename_i hx
      obtain ⟨rfl, rfl⟩ := hx
      omega
    · exact hle
  head_le := h.head_le
  served := h.served

theorem WF.burn (h : WF b) {o : O} {n : Nat} (hu : b.Unlocked o n) : WF (b.burn o n) where
  epoch_pos := h.epoch_pos
  total := by
    have hsum := h.sum_shares_set2 o (b.shares b.epoch o - n)
    have hle := h.le_totalShares hu
    unfold Book.Unlocked at hu
    simp only [Book.burn]
    omega
  future e he x := by
    have hne : e ≠ b.epoch := Nat.ne_of_gt he
    simpa [Book.burn, set2_row_of_ne _ _ _ hne] using h.future e he x
  fresh := h.fresh
  past := h.past
  pending := h.pending
  locked := h.locked
  locked_le e x := by
    have hle := h.locked_le e x
    unfold Book.Unlocked at hu
    simp only [Book.burn, set2_apply]
    split
    · rename_i hx
      obtain ⟨rfl, rfl⟩ := hx
      omega
    · exact hle
  head_le := h.head_le
  served := h.served

theorem WF.move (h : WF b) {o o' : O} {n : Nat} (hu : b.Unlocked o n) : WF (b.move o o' n) where
  epoch_pos := h.epoch_pos
  total := by
    have hsum := h.sum_shares_set2 o (b.shares b.epoch o - n)
    have hsum' := Total.sum_update
      (Function.update (b.shares b.epoch) o (b.shares b.epoch o - n)) o'
      (Function.update (b.shares b.epoch) o (b.shares b.epoch o - n) o' + n)
    unfold Book.Unlocked at hu
    simp only [Book.move, set2_row] at hsum ⊢
    omega
  future e he x := by
    have hne : e ≠ b.epoch := Nat.ne_of_gt he
    simpa [Book.move, set2_row_of_ne _ _ _ hne] using h.future e he x
  fresh := h.fresh
  past := h.past
  pending := h.pending
  locked := h.locked
  locked_le e x := by
    have hle := h.locked_le e x
    unfold Book.Unlocked at hu
    simp only [Book.move, set2_apply]
    split
    · rename_i hx
      obtain ⟨rfl, rfl⟩ := hx
      split
      · rename_i hx'
        obtain rfl := hx'.2
        omega
      · omega
    · split
      · rename_i hx
        obtain ⟨rfl, rfl⟩ := hx
        omega
      · exact hle
  head_le := h.head_le
  served := h.served

/-- The entries of a request that is written, as seen by the sums over all requests. -/
theorem WF.sum_requests_update (h : WF b) {id : Nat} (hr : (b.requests id).remaining ≠ 0)
    (r : Request O) (g : Request O → Nat) :
    ∑ i ∈ range b.next, g (Function.update b.requests id r i) + g (b.requests id) =
      ∑ i ∈ range b.next, g (b.requests i) + g r := by
  simpa using Total.sum_add_eq (f := fun i => g (b.requests i))
    (g := fun i => g (Function.update b.requests id r i)) (h.mem_range_of_remaining hr)
    (fun j hj => by simp [Function.update_of_ne hj])

omit [DecidableEq O] [Fintype O] in
/-- A new request joins the sums over all requests. -/
theorem sum_requests_push (b : Book O) (r : Request O) (g : Request O → Nat) :
    ∑ i ∈ range (b.next + 1), g (Function.update b.requests b.next r i) =
      ∑ i ∈ range b.next, g (b.requests i) + g r := by
  simpa using Total.sum_range_succ_of_eq (n := b.next) (f := fun i => g (b.requests i))
    (g := fun i => g (Function.update b.requests b.next r i))
    (fun j hj => by simp [Function.update_of_ne (Nat.ne_of_lt hj)])

theorem WF.request (h : WF b) {o : O} {n : Nat} (hu : b.Unlocked o n) : WF (b.request o n) where
  epoch_pos := h.epoch_pos
  total := h.total
  future := h.future
  fresh id hid := by
    have hne : id ≠ b.next := Nat.ne_of_gt hid
    simpa [Book.request, Function.update_of_ne hne] using h.fresh id (Nat.le_of_succ_le hid)
  past id := by
    by_cases hid : id = b.next
    · simp [Book.request, hid]
    · simpa [Book.request, Function.update_of_ne hid] using h.past id
  pending := by
    simp only [Book.request]
    rw [sum_requests_push b _ (fun r => r.pendingIn b.epoch), ← h.pending]
    simp [Request.pendingIn]
  locked e x := by
    simp only [Book.request, set2_apply]
    rw [sum_requests_push b _ (fun r => r.lockedFor e x), ← h.locked]
    by_cases hx : e = b.epoch ∧ x = o
    · obtain ⟨rfl, rfl⟩ := hx
      simp [Request.lockedFor]
    · have hx' : ¬(b.epoch = e ∧ o = x) := fun hh => hx ⟨hh.1.symm, hh.2.symm⟩
      simp [Request.lockedFor, hx, hx']
  locked_le e x := by
    have hle := h.locked_le e x
    unfold Book.Unlocked at hu
    simp only [Book.request, set2_apply]
    split
    · rename_i hx
      obtain ⟨rfl, rfl⟩ := hx
      omega
    · exact hle
  head_le := Nat.le_succ_of_le h.head_le
  served id hid := by
    have hne : id ≠ b.next := Nat.ne_of_lt (Nat.lt_of_lt_of_le hid h.head_le)
    simpa [Book.request, Function.update_of_ne hne] using h.served id hid

theorem WF.cancel (h : WF b) {id : Nat} (hr : (b.requests id).remaining ≠ 0) :
    WF (b.cancel id) where
  epoch_pos := h.epoch_pos
  total := h.total
  future := h.future
  fresh i hi := by
    by_cases hid : i = id
    · simp [Book.cancel, hid]
    · simpa [Book.cancel, Function.update_of_ne hid] using h.fresh i hi
  past i := by
    by_cases hid : i = id
    · simpa [Book.cancel, hid] using h.past id
    · simpa [Book.cancel, Function.update_of_ne hid] using h.past i
  pending := by
    have hsum := h.sum_requests_update hr { b.requests id with remaining := 0 }
      (fun r => r.pendingIn b.epoch)
    have hle := h.pendingIn_le hr
    rw [← h.pending] at hsum
    simp only [Book.cancel]
    simp only [Request.pendingIn, ite_self, Nat.add_zero] at hsum hle ⊢
    omega
  locked e x := by
    have hsum := h.sum_requests_update hr { b.requests id with remaining := 0 }
      (fun r => r.lockedFor e x)
    have hle := h.lockedFor_le hr e x
    rw [← h.locked] at hsum
    simp only [Book.cancel, set2_apply]
    simp only [Request.lockedFor, ite_self, Nat.add_zero] at hsum hle ⊢
    by_cases hx : e = (b.requests id).epoch ∧ x = (b.requests id).owner
    · obtain ⟨rfl, rfl⟩ := hx
      simp only [and_self, if_true] at hsum hle ⊢
      omega
    · have hx' : ¬((b.requests id).epoch = e ∧ (b.requests id).owner = x) :=
        fun hh => hx ⟨hh.1.symm, hh.2.symm⟩
      simp only [hx, hx', if_false] at hsum ⊢
      omega
  locked_le e x := by
    have hle := h.locked_le e x
    simp only [Book.cancel, set2_apply]
    split
    · rename_i hx
      obtain ⟨rfl, rfl⟩ := hx
      omega
    · exact hle
  head_le := h.head_le
  served i hi := by
    by_cases hid : i = id
    · simp [Book.cancel, hid]
    · simpa [Book.cancel, Function.update_of_ne hid] using h.served i hi

theorem WF.serve (h : WF b) {n assets : Nat} (hn : n ≠ 0)
    (hle : n ≤ (b.requests b.head).remaining) (he : (b.requests b.head).epoch = b.epoch) :
    WF (b.serve n assets) where
  epoch_pos := h.epoch_pos
  total := h.total
  future := h.future
  fresh i hi := by
    by_cases hid : i = b.head
    · have := h.fresh i hi
      subst hid
      simp [Book.serve, this]
    · simpa [Book.serve, Function.update_of_ne hid] using h.fresh i hi
  past i := by
    by_cases hid : i = b.head
    · simpa [Book.serve, hid] using h.past b.head
    · simpa [Book.serve, Function.update_of_ne hid] using h.past i
  pending := by
    have hr : (b.requests b.head).remaining ≠ 0 := by omega
    have hsum := h.sum_requests_update hr
      { b.requests b.head with
        remaining := (b.requests b.head).remaining - n
        reserved := (b.requests b.head).reserved + assets } (fun r => r.pendingIn b.epoch)
    have hp := h.pendingIn_le hr
    rw [← h.pending] at hsum
    simp only [Book.serve]
    simp only [Request.pendingIn, he, if_true] at hsum hp ⊢
    omega
  locked e x := by
    have hr : (b.requests b.head).remaining ≠ 0 := by omega
    have hsum := h.sum_requests_update hr
      { b.requests b.head with
        remaining := (b.requests b.head).remaining - n
        reserved := (b.requests b.head).reserved + assets } (fun r => r.lockedFor e x)
    have hl := h.lockedFor_le hr e x
    rw [← h.locked] at hsum
    simp only [Book.serve, set2_apply]
    simp only [Request.lockedFor, he] at hsum hl ⊢
    by_cases hx : e = b.epoch ∧ x = (b.requests b.head).owner
    · obtain ⟨rfl, rfl⟩ := hx
      simp only [and_self, if_true] at hsum hl ⊢
      omega
    · have hx' : ¬(b.epoch = e ∧ (b.requests b.head).owner = x) :=
        fun hh => hx ⟨hh.1.symm, hh.2.symm⟩
      simp only [hx, hx', if_false] at hsum ⊢
      omega
  locked_le e x := by
    have hl := h.locked_le e x
    simp only [Book.serve, set2_apply]
    split
    · rename_i hx
      obtain ⟨rfl, rfl⟩ := hx
      omega
    · exact hl
  head_le := h.head_le
  served i hi := by
    have hid : i ≠ b.head := Nat.ne_of_lt hi
    simpa [Book.serve, Function.update_of_ne hid] using h.served i hi

/-- The shares a serve unlocks can be burned. -/
theorem WF.unlocked_serve (h : WF b) {n assets : Nat} (hn : n ≠ 0)
    (hle : n ≤ (b.requests b.head).remaining) (he : (b.requests b.head).epoch = b.epoch) :
    (b.serve n assets).Unlocked (b.requests b.head).owner n := by
  have hr : (b.requests b.head).remaining ≠ 0 := by omega
  have hl := h.lockedFor_le hr b.epoch (b.requests b.head).owner
  have hs := h.locked_le b.epoch (b.requests b.head).owner
  simp only [Request.lockedFor, he, and_self, if_true] at hl
  simp only [Book.Unlocked, Book.serve, set2_self]
  omega

theorem WF.fill (h : WF b) {n assets : Nat} (hn : n ≠ 0)
    (hle : n ≤ (b.requests b.head).remaining) (he : (b.requests b.head).epoch = b.epoch) :
    WF (b.fill n assets) :=
  (h.serve hn hle he).burn (h.unlocked_serve hn hle he)

theorem WF.advance (h : WF b) (hlt : b.head < b.next)
    (hr : (b.requests b.head).remaining = 0 ∨ (b.requests b.head).epoch ≠ b.epoch) :
    WF b.advance where
  epoch_pos := h.epoch_pos
  total := h.total
  future := h.future
  fresh := h.fresh
  past := h.past
  pending := h.pending
  locked := h.locked
  locked_le := h.locked_le
  head_le := hlt
  served id hid hepoch := by
    rcases Nat.lt_succ_iff_lt_or_eq.mp hid with hlt' | rfl
    · exact h.served id hlt' hepoch
    · exact hr.resolve_right fun hne => hne hepoch

theorem WF.close (h : WF b) (residual : Nat) : WF (b.close residual) where
  epoch_pos := Nat.succ_ne_zero _
  total := by
    have hzero : ∀ o, b.shares (b.epoch + 1) o = 0 := h.future _ (Nat.lt_succ_self _)
    simp [Book.close, hzero]
  future e he o := h.future e (Nat.lt_of_succ_lt he) o
  fresh := h.fresh
  past id := Nat.le_succ_of_le (h.past id)
  pending := by
    refine (sum_eq_zero fun id _ => ?_).symm
    have hne : (b.requests id).epoch ≠ b.epoch + 1 :=
      Nat.ne_of_lt (Nat.lt_succ_of_le (h.past id))
    exact if_neg hne
  locked := h.locked
  locked_le := h.locked_le
  head_le := Nat.le_refl _
  served id _ hepoch := by
    have := h.past id
    simp only [Book.close] at hepoch
    omega

theorem WF.receive (h : WF b) (e amount : Nat) : WF (b.receive e amount) :=
  ⟨h.epoch_pos, h.total, h.future, h.fresh, h.past, h.pending, h.locked, h.locked_le, h.head_le,
    h.served⟩

theorem WF.claimRecovery (h : WF b) (e : Nat) (o : O) (amount : Nat) :
    WF (b.claimRecovery e o amount) :=
  ⟨h.epoch_pos, h.total, h.future, h.fresh, h.past, h.pending, h.locked, h.locked_le, h.head_le,
    h.served⟩

/-- Paying a served request leaves the queued shares of every request alone. -/
theorem WF.claim (h : WF b) (id amount : Nat) : WF (b.claim id amount) := by
  have hview : ∀ i, ((b.claim id amount).requests i).owner = (b.requests i).owner ∧
      ((b.claim id amount).requests i).epoch = (b.requests i).epoch ∧
      ((b.claim id amount).requests i).remaining = (b.requests i).remaining := by
    intro i
    by_cases hid : i = id
    · subst hid
      simp [Book.claim]
    · simp [Book.claim, Function.update_of_ne hid]
  refine ⟨h.epoch_pos, h.total, h.future, ?_, ?_, ?_, ?_, h.locked_le, h.head_le, ?_⟩
  · intro i hi
    rw [(hview i).2.2]
    exact h.fresh i hi
  · intro i
    rw [(hview i).2.1]
    exact h.past i
  · refine h.pending.trans (sum_congr rfl fun i _ => ?_)
    simp only [Request.pendingIn, (hview i).2.1, (hview i).2.2]
    rfl
  · intro e o
    refine (h.locked e o).trans (sum_congr rfl fun i _ => ?_)
    simp only [Request.lockedFor, (hview i).1, (hview i).2.1, (hview i).2.2]
  · intro i hi hepoch
    rw [(hview i).2.2]
    exact h.served i hi ((hview i).2.1.symm.trans hepoch)

end

/-- Every move keeps the register and the queue. -/
theorem step_wf {b b' : Book O} (h : WF b) (hs : Step b b') : WF b' := by
  cases hs with
  | mint o n => exact h.mint o n
  | burn o n hu => exact h.burn hu
  | move o o' n hu => exact h.move hu
  | request o n hu => exact h.request hu
  | cancel id hr => exact h.cancel hr
  | fill n assets hn hle he => exact h.fill hn hle he
  | advance hlt hr => exact h.advance hlt hr
  | close residual _ => exact h.close residual
  | receive e amount _ _ => exact h.receive e amount
  | claim id amount _ => exact h.claim id amount
  | claimRecovery e o amount _ _ => exact h.claimRecovery e o amount

/-! ### Cash set aside for served requests -/

/-- The cash set aside for served requests is what they have reserved and not claimed. -/
structure Reserves (b : Book O) : Prop where
  unmade : ∀ id, b.next ≤ id → (b.requests id).reserved = 0
  claimed_le : ∀ id, (b.requests id).claimed ≤ (b.requests id).reserved
  total : b.withdrawalReserved =
    ∑ id ∈ range b.next, ((b.requests id).reserved - (b.requests id).claimed)

omit [DecidableEq O] [Fintype O] in
/-- A write to one request, as seen by the reserve total. -/
theorem Reserves.sum_update {b : Book O} (h : Reserves b) {id : Nat} (hid : id < b.next)
    (r : Request O) :
    ∑ i ∈ range b.next, ((Function.update b.requests id r i).reserved -
        (Function.update b.requests id r i).claimed) +
      ((b.requests id).reserved - (b.requests id).claimed) =
    b.withdrawalReserved + (r.reserved - r.claimed) := by
  rw [h.total]
  simpa using Total.sum_add_eq
    (f := fun i => (b.requests i).reserved - (b.requests i).claimed)
    (g := fun i => (Function.update b.requests id r i).reserved -
      (Function.update b.requests id r i).claimed)
    (mem_range.mpr hid) (fun j hj => by simp [Function.update_of_ne hj])

omit [DecidableEq O] [Fintype O] in
/-- A write to a request that leaves its cash alone keeps the reserves. -/
theorem Reserves.of_requests_eq {b b' : Book O} (h : Reserves b)
    (hnext : b'.next = b.next) (hres : b'.withdrawalReserved = b.withdrawalReserved)
    (hreq : ∀ id, (b'.requests id).reserved = (b.requests id).reserved ∧
      (b'.requests id).claimed = (b.requests id).claimed) : Reserves b' := by
  refine ⟨fun id hid => ?_, fun id => ?_, ?_⟩
  · rw [(hreq id).1]
    exact h.unmade id (hnext ▸ hid)
  · rw [(hreq id).1, (hreq id).2]
    exact h.claimed_le id
  · rw [hres, hnext, h.total]
    exact sum_congr rfl fun id _ => by rw [(hreq id).1, (hreq id).2]

omit [Fintype O] in
theorem Reserves.request {b : Book O} (h : Reserves b) (o : O) (n : Nat) :
    Reserves (b.request o n) := by
  refine ⟨fun id hid => ?_, fun id => ?_, ?_⟩
  · have hne : id ≠ b.next := Nat.ne_of_gt hid
    simpa [Book.request, Function.update_of_ne hne] using h.unmade id (Nat.le_of_succ_le hid)
  · by_cases hid : id = b.next
    · simp [Book.request, hid]
    · simpa [Book.request, Function.update_of_ne hid] using h.claimed_le id
  · simp only [Book.request]
    rw [sum_requests_push b _ (fun r => r.reserved - r.claimed), ← h.total]
    exact (Nat.add_zero _).symm

theorem Reserves.serve {b : Book O} (h : Reserves b) (hw : WF b) {n : Nat} (assets : Nat)
    (hn : n ≠ 0) (hle : n ≤ (b.requests b.head).remaining) : Reserves (b.serve n assets) := by
  have hr : (b.requests b.head).remaining ≠ 0 := by omega
  have hlt := mem_range.mp (hw.mem_range_of_remaining hr)
  refine ⟨fun id hid => ?_, fun id => ?_, ?_⟩
  · have hne : id ≠ b.head := Nat.ne_of_gt (Nat.lt_of_lt_of_le hlt hid)
    simpa [Book.serve, Function.update_of_ne hne] using h.unmade id hid
  · by_cases hid : id = b.head
    · have := h.claimed_le b.head
      simp only [Book.serve, hid, Function.update_self]
      omega
    · simpa [Book.serve, Function.update_of_ne hid] using h.claimed_le id
  · have hsum := h.sum_update hlt
      { b.requests b.head with
        remaining := (b.requests b.head).remaining - n
        reserved := (b.requests b.head).reserved + assets }
    have hc := h.claimed_le b.head
    simp only [Book.serve] at hsum ⊢
    omega

omit [DecidableEq O] [Fintype O] in
theorem Reserves.claim {b : Book O} (h : Reserves b) {id amount : Nat}
    (hc : (b.requests id).claimed + amount = (b.requests id).reserved) :
    Reserves (b.claim id amount) := by
  refine ⟨fun i hi => ?_, fun i => ?_, ?_⟩
  · by_cases hid : i = id
    · simpa [Book.claim, hid] using h.unmade id (hid ▸ hi)
    · simpa [Book.claim, Function.update_of_ne hid] using h.unmade i hi
  · by_cases hid : i = id
    · simp [Book.claim, hid, hc]
    · simpa [Book.claim, Function.update_of_ne hid] using h.claimed_le i
  · by_cases hlt : id < b.next
    · have hsum := h.sum_update hlt
        { b.requests id with claimed := (b.requests id).claimed + amount }
      simp only [Book.claim] at hsum ⊢
      omega
    · -- A request that was not made has no cash, so the amount is zero.
      have hzero : amount = 0 := by
        have := h.unmade id (Nat.le_of_not_lt hlt)
        omega
      subst hzero
      have hsame : (b.claim id 0).requests = b.requests := by
        simp [Book.claim]
      rw [hsame]
      simpa [Book.claim] using h.total

/-- Every move keeps the cash of served requests accounted for. -/
theorem step_reserves {b b' : Book O} (h : Reserves b) (hw : WF b) (hs : Step b b') :
    Reserves b' := by
  cases hs with
  | request o n _ => exact h.request o n
  | fill n assets hn hle _ =>
    exact (h.serve hw assets hn hle).of_requests_eq rfl rfl fun _ => ⟨rfl, rfl⟩
  | claim id amount hc => exact h.claim hc
  | cancel id _ =>
    refine h.of_requests_eq rfl rfl fun i => ?_
    by_cases hid : i = id
    · simp [Book.cancel, hid]
    · simp [Book.cancel, Function.update_of_ne hid]
  | mint | burn | move | advance | close | receive | claimRecovery =>
    exact h.of_requests_eq rfl rfl fun _ => ⟨rfl, rfl⟩

/-! ### Cash set aside for closed epochs -/

/-- The cohorts of closed epochs.

- `closed`: the frozen supply of a closed epoch is the sum of its frozen balances, and it is
  not zero;
- `unopened`: nothing is received for an epoch before it closes;
- `claimed_le`: nobody has claimed more than was earned;
- `reserved`: the cash set aside is what was received and not claimed. -/
structure Cohorts (b : Book O) : Prop where
  closed : ∀ e, e ≠ 0 → e < b.epoch →
    b.closedShares e = ∑ o, b.shares e o ∧ b.closedShares e ≠ 0
  unopened : ∀ e, e = 0 ∨ b.epoch ≤ e → b.received e = 0
  claimed_le : ∀ e o, b.claimed e o ≤ b.earned e o
  reserved : b.recoveryReserved + ∑ e ∈ range b.epoch, ∑ o, b.claimed e o =
    ∑ e ∈ range b.epoch, b.received e

section
variable {b : Book O}

omit [DecidableEq O] in
/-- Nothing is claimed for an epoch that received nothing. -/
theorem Cohorts.claimed_eq_zero (h : Cohorts b) {e : Nat} (he : b.received e = 0) (o : O) :
    b.claimed e o = 0 := by
  have := h.claimed_le e o
  simpa [Book.earned, he] using this

omit [DecidableEq O] in
/-- The holders of a closed epoch have earned at most what was received for it. -/
theorem Cohorts.sum_earned_le (h : Cohorts b) (e : Nat) : ∑ o, b.earned e o ≤ b.received e := by
  by_cases he : e ≠ 0 ∧ e < b.epoch
  · exact Total.sum_proRata_le (b.shares e) (b.received e) _ (h.closed e he.1 he.2).1.symm
  · have hzero : b.received e = 0 := h.unopened e (by omega)
    simp [Book.earned, hzero]

omit [DecidableEq O] in
/-- The cash set aside covers everything every holder of a closed epoch can still claim. -/
theorem Cohorts.sum_claimable_le (h : Cohorts b) :
    ∑ e ∈ range b.epoch, ∑ o, (b.earned e o - b.claimed e o) ≤ b.recoveryReserved := by
  have hsplit : ∑ e ∈ range b.epoch, ∑ o, (b.earned e o - b.claimed e o) +
      ∑ e ∈ range b.epoch, ∑ o, b.claimed e o = ∑ e ∈ range b.epoch, ∑ o, b.earned e o := by
    rw [← sum_add_distrib]
    refine sum_congr rfl fun e _ => ?_
    rw [← sum_add_distrib]
    exact sum_congr rfl fun o _ => Nat.sub_add_cancel (h.claimed_le e o)
  have hle : ∑ e ∈ range b.epoch, ∑ o, b.earned e o ≤ ∑ e ∈ range b.epoch, b.received e :=
    sum_le_sum fun e _ => h.sum_earned_le e
  have := h.reserved
  omega

omit [DecidableEq O] in
/-- Cohorts do not read anything but the closed epochs: a book that agrees with `b` on them
keeps them. The shares of the current epoch are free, nothing was received for it. -/
theorem Cohorts.of_frozen {b' : Book O} (h : Cohorts b) (hepoch : b'.epoch = b.epoch)
    (hshares : ∀ e, e < b.epoch → b'.shares e = b.shares e)
    (hclosed : b'.closedShares = b.closedShares) (hreceived : b'.received = b.received)
    (hclaimed : b'.claimed = b.claimed) (hres : b'.recoveryReserved = b.recoveryReserved) :
    Cohorts b' := by
  refine ⟨fun e he hlt => ?_, fun e he => ?_, fun e o => ?_, ?_⟩
  · rw [hepoch] at hlt
    rw [hclosed, hshares e hlt]
    exact h.closed e he hlt
  · rw [hreceived]
    exact h.unopened e (hepoch ▸ he)
  · by_cases hlt : e < b.epoch
    · simpa [Book.earned, hclaimed, hreceived, hclosed, hshares e hlt] using h.claimed_le e o
    · have hzero : b.received e = 0 := h.unopened e (Or.inr (Nat.le_of_not_lt hlt))
      rw [hclaimed, h.claimed_eq_zero hzero]
      exact Nat.zero_le _
  · rw [hres, hepoch, hclaimed, hreceived]
    exact h.reserved

theorem Cohorts.close (h : Cohorts b) (hw : WF b) (residual : Nat) (hs : b.totalShares ≠ 0) :
    Cohorts (b.close residual) := by
  have hcur : b.received b.epoch = 0 := h.unopened _ (Or.inr (Nat.le_refl _))
  refine ⟨fun e he hlt => ?_, fun e he => ?_, fun e o => ?_, ?_⟩
  · rcases Nat.lt_succ_iff_lt_or_eq.mp hlt with hlt' | rfl
    · have hne : e ≠ b.epoch := Nat.ne_of_lt hlt'
      simpa [Book.close, Function.update_of_ne hne] using h.closed e he hlt'
    · simpa [Book.close, hs] using hw.total
  · have hne : e ≠ b.epoch := by
      have := hw.epoch_pos
      simp only [Book.close] at he
      omega
    have hold : e = 0 ∨ b.epoch ≤ e := by
      simp only [Book.close] at he
      omega
    simpa [Book.close, Function.update_of_ne hne] using h.unopened e hold
  · by_cases he : e = b.epoch
    · subst he
      rw [show (b.close residual).claimed = b.claimed from rfl, h.claimed_eq_zero hcur]
      exact Nat.zero_le _
    · simpa [Book.close, Book.earned, Function.update_of_ne he] using h.claimed_le e o
  · -- The closing epoch joins both sums: it received `residual` and nobody has claimed yet.
    have hclaim : ∑ o, b.claimed b.epoch o = 0 := by
      simp [h.claimed_eq_zero hcur]
    have hsum : ∑ e ∈ range b.epoch,
        Function.update b.received b.epoch (b.received b.epoch + residual) e =
        ∑ e ∈ range b.epoch, b.received e :=
      sum_congr rfl fun e he => Function.update_of_ne (Nat.ne_of_lt (mem_range.mp he)) _ _
    have hr := h.reserved
    simp only [Book.close]
    rw [sum_range_succ, sum_range_succ, hclaim, hsum, Function.update_self, hcur]
    omega

omit [DecidableEq O] in
theorem Cohorts.receive (h : Cohorts b) {e : Nat} (amount : Nat) (h₁ : e ≠ 0)
    (h₂ : e < b.epoch) : Cohorts (b.receive e amount) := by
  refine ⟨h.closed, fun i hi => ?_, fun i o => ?_, ?_⟩
  · have hne : i ≠ e := by
      simp only [Book.receive] at hi
      omega
    simpa [Book.receive, Function.update_of_ne hne] using h.unopened i hi
  · have hle := h.claimed_le i o
    refine Nat.le_trans hle (Nat.div_le_div_right (Nat.mul_le_mul_right _ ?_))
    by_cases hi : i = e
    · simp [Book.receive, hi]
    · simp [Book.receive, Function.update_of_ne hi]
  · have hsum := Total.sum_add_eq (f := b.received)
      (g := Function.update b.received e (b.received e + amount)) (mem_range.mpr h₂)
      (fun j hj => Function.update_of_ne hj _ _)
    have hr := h.reserved
    simp only [Book.receive, Function.update_self] at hsum ⊢
    omega

theorem Cohorts.claimRecovery (h : Cohorts b) {e : Nat} {o : O} {amount : Nat}
    (he : e < b.epoch) (hc : b.claimed e o + amount = b.earned e o) :
    Cohorts (b.claimRecovery e o amount) := by
  have hrow : ∑ x, set2 b.claimed e o (b.claimed e o + amount) e x =
      ∑ x, b.claimed e x + amount := by
    have := Total.sum_update (b.claimed e) o (b.claimed e o + amount)
    rw [set2_row]
    omega
  have hsum : ∑ i ∈ range b.epoch, ∑ x, set2 b.claimed e o (b.claimed e o + amount) i x =
      ∑ i ∈ range b.epoch, ∑ x, b.claimed i x + amount := by
    have := Total.sum_add_eq (f := fun i => ∑ x, b.claimed i x)
      (g := fun i => ∑ x, set2 b.claimed e o (b.claimed e o + amount) i x) (mem_range.mpr he)
      (fun j hj => by simp only [set2_row_of_ne _ _ _ hj])
    simp only [hrow] at this
    omega
  -- The amount is part of what was earned and not claimed, so it is set aside.
  have hamount : amount ≤ b.recoveryReserved := by
    have hle := h.sum_claimable_le
    have h₁ : amount ≤ ∑ x, (b.earned e x - b.claimed e x) :=
      Nat.le_trans (by omega) (Total.le_sum_univ (fun x => b.earned e x - b.claimed e x) o)
    have h₂ : ∑ x, (b.earned e x - b.claimed e x) ≤
        ∑ i ∈ range b.epoch, ∑ x, (b.earned i x - b.claimed i x) :=
      single_le_sum (f := fun i => ∑ x, (b.earned i x - b.claimed i x))
        (fun _ _ => Nat.zero_le _) (mem_range.mpr he)
    omega
  refine ⟨h.closed, h.unopened, fun i x => ?_, ?_⟩
  · have hle := h.claimed_le i x
    simp only [Book.claimRecovery, set2_apply]
    split
    · rename_i hx
      obtain ⟨rfl, rfl⟩ := hx
      exact Nat.le_of_eq hc
    · exact hle
  · have hr := h.reserved
    simp only [Book.claimRecovery]
    rw [hsum]
    omega

end

/-- Every move keeps the cohorts. -/
theorem step_cohorts {b b' : Book O} (h : Cohorts b) (hw : WF b) (hs : Step b b') :
    Cohorts b' := by
  cases hs with
  | close residual hne => exact h.close hw residual hne
  | receive e amount h₁ h₂ => exact h.receive amount h₁ h₂
  | claimRecovery e o amount he hc => exact h.claimRecovery he hc
  | mint o n => exact h.of_frozen rfl (step_frozen (.mint b o n)).shares rfl rfl rfl rfl
  | burn o n hu => exact h.of_frozen rfl (step_frozen (.burn b o n hu)).shares rfl rfl rfl rfl
  | move o o' n hu =>
    exact h.of_frozen rfl (step_frozen (.move b o o' n hu)).shares rfl rfl rfl rfl
  | fill n assets hn hle he =>
    exact h.of_frozen rfl (step_frozen (.fill b n assets hn hle he)).shares rfl rfl rfl rfl
  | request | cancel | advance | claim =>
    exact h.of_frozen rfl (fun _ _ => rfl) rfl rfl rfl rfl

/-- The three invariants together. -/
structure Valid (b : Book O) : Prop where
  wf : WF b
  reserves : Reserves b
  cohorts : Cohorts b

theorem step_valid {b b' : Book O} (h : Valid b) (hs : Step b b') : Valid b' :=
  ⟨step_wf h.wf hs, step_reserves h.reserves h.wf hs, step_cohorts h.cohorts h.wf hs⟩

theorem run_valid {b b' : Book O} (h : Valid b) (hrun : Run b b') : Valid b' :=
  hrun.invariant (fun _ _ => step_valid) h

end ShareQueue
