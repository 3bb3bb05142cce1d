import Rackline.Proofs.ReferenceLedger
import Rackline.Proofs.Nav
import Mathlib.Algebra.BigOperators.Group.List.Basic
import Mathlib.Algebra.Order.BigOperators.Group.List

/-!
# `Rackline.Proofs.ReferenceVault`: the vault and the reference book

The vault assembles its NAV from the token balance, three liabilities, the total of the ledger and
the total impairment. The reference book keeps LP cash and sums over its facilities. A `BookOp` is
an operation that both have: for the contracts it is a list of calls in one transaction, for the
book it is a method after `tick`. A write-off of the contracts freezes the accrual of the ledger
first, as the write-off of the book does.

`Books` relates the two. Every operation that both accept keeps it, except for two:

- a repayment that leaves less debt than the impairment of the facility. The vault caps the
  impairment by the debt (`capImpairment`), the book keeps all of it;
- a recovery that is reported through `recordRecovery` and exceeds the debt. The vault counts all
  of it as LP cash, the book owes the excess to the borrower.

`BookOp.Regular` excludes these two, by the state before the call.
-/

set_option autoImplicit false

namespace Rackline

open Evm InterestMath Transition Finset

/-! ### Operations -/

/-- The calls that only configure the contracts, and the approvals of the token. -/
def PoolCall.configures : PoolCall → Bool
  | .vault (.setManager ..) | .vault .finalizeWiring | .vault (.bindRecoveryManager _)
  | .vault (.setDepositsPaused _) | .ledger (.setWriter ..) | .ledger .finalizeWiring
  | .token (.approve ..) => true
  | _ => false

/-- The operations that the vault and the reference book both have. -/
inductive BookOp
  | wait
  | configure (call : PoolCall)
  | openFacility (id : FacilityId) (terms : Terms)
  | deposit (assets minShares : Nat)
  | withdraw (shares minAssets : Nat)
  | donate (assets : Nat)
  | draw (id : FacilityId) (dst : Address) (amount : Nat)
  | repay (payer : Address) (id : FacilityId) (amount : Nat)
  | impair (id : FacilityId) (amount : Nat)
  | writeOff (id : FacilityId)
  | recover (payer : Address) (id : FacilityId) (amount : Nat)

namespace BookOp

/-- The calls to the contracts, by the sender of the operation, to the vault at `self`. -/
def calls (self : Address) : BookOp → List PoolCall
  | wait => []
  | configure call => [call]
  | openFacility id terms => [.ledger (.openFacility id terms)]
  | deposit assets minShares => [.vault (.deposit assets minShares)]
  | withdraw shares minAssets => [.vault (.withdraw shares minAssets)]
  | donate assets => [.token (.transfer self assets)]
  | draw id dst amount => [.ledger (.recordDraw id amount), .vault (.lend id dst amount)]
  | repay payer id amount => [.token (.transferFrom payer self amount), .repay id amount amount]
  | impair id amount => [.vault (.recognizeImpairment id amount)]
  | writeOff id => [.ledger (.freezeAccrual id), .vault (.writeOff id)]
  | recover payer id amount =>
    [.token (.transferFrom payer self amount), .ledger (.allocate id amount),
      .vault (.recordRecovery id amount)]

/-- The method of the reference book. -/
def onBook (m : Msg) (v : Reference.VaultLedger) :
    BookOp → Except Reference.AccountingError Reference.VaultLedger
  | wait | configure _ => .ok v
  | openFacility id terms =>
    .ok (v.openFacility id ⟨terms.rateBps, terms.capitalizeUnpaidInterest⟩ m.now)
  | deposit assets _ => (v.deposit m.sender assets).map (·.2)
  | withdraw shares _ => (v.withdraw m.sender shares).map (·.2)
  | donate assets => .ok (v.donate assets)
  | draw id _ amount => v.draw id m.now amount
  | repay _ id amount => (v.repayFor id m.now amount true).map (·.2)
  | impair id amount => v.impair id amount
  | writeOff id => v.writeOff id m.now
  | recover _ id amount => (v.recover id m.now amount).map (·.2)

/-- What the types of the arguments say, that a facility does not capitalize its interest, and that
the vault pays no one's debt. -/
def Admissible (self : Address) : BookOp → Prop
  | configure call => call.configures = true
  | openFacility _ terms =>
    terms.capitalizeUnpaidInterest = false ∧ terms.rateBps < wordSize 32
  | repay payer _ _ | recover payer _ _ => payer ≠ self
  | _ => True

instance (self : Address) : DecidablePred (Admissible self) := fun op =>
  match op with
  | configure call => inferInstanceAs (Decidable (call.configures = true))
  | openFacility _ terms => inferInstanceAs
      (Decidable (terms.capitalizeUnpaidInterest = false ∧ terms.rateBps < wordSize 32))
  | repay payer _ _ | recover payer _ _ => inferInstanceAs (Decidable (payer ≠ self))
  | wait | deposit .. | withdraw .. | donate .. | draw .. | impair .. | writeOff .. =>
    .isTrue trivial

/-- The condition of the agreement, on the state before the operation: a repayment leaves at least
the impairment of the facility, a recovery is at most the debt. -/
def Regular (now : Nat) (p : Pool) : BookOp → Prop
  | repay _ id amount => p.vault.impairmentOf id ≤ p.ledger.debtAt id now - amount
  | recover _ id amount => amount ≤ p.ledger.debtAt id now
  | _ => True

instance (now : Nat) (p : Pool) : DecidablePred (Regular now p) := fun op =>
  match op with
  | repay _ id amount =>
    inferInstanceAs (Decidable (p.vault.impairmentOf id ≤ p.ledger.debtAt id now - amount))
  | recover _ id amount => inferInstanceAs (Decidable (amount ≤ p.ledger.debtAt id now))
  | wait | configure .. | openFacility .. | deposit .. | withdraw .. | donate .. | draw ..
  | impair .. | writeOff .. => .isTrue trivial

end BookOp

/-- Calls of one transaction, in order. -/
def Pool.execAll (m : Msg) : List PoolCall → Pool → Except Revert Pool
  | [], p => .ok p
  | call :: rest, p => do
    let p ← p.exec m call
    execAll m rest p

/-- The contracts and the reference book, at the time of the last operation. -/
structure BookState where
  now : Nat
  pool : Pool
  book : Reference.VaultLedger

/-- A deployed vault without tokens, and a new book. -/
def BookState.Initial (s : BookState) : Prop :=
  PoolState.Initial ⟨s.now, s.pool⟩ ∧ s.pool.cashBalance = 0 ∧ s.now = 0 ∧ s.book = .new

/-- An operation that both accept. -/
structure BookStep (s : BookState) (a : Msg × BookOp) (s' : BookState) : Prop where
  later : s.now ≤ a.1.now
  word : a.1.now < wordSize 64
  external : a.1.sender ≠ s.pool.vault.self
  admissible : a.2.Admissible s.pool.vault.self
  pool : s.pool.execAll a.1 (a.2.calls s.pool.vault.self) = .ok s'.pool
  book : (do
    let v ← s.book.tick a.1.now
    a.2.onBook a.1 v) = .ok s'.book
  now : s'.now = a.1.now

/-- An operation that both accept and that meets the condition. -/
def RegularStep (s : BookState) (a : Msg × BookOp) (s' : BookState) : Prop :=
  BookStep s a s' ∧ a.2.Regular a.1.now s.pool

/-! ### The relation -/

/-- The facilities of the ledger and of the book. -/
structure Mirrored (l : Ledger) (v : Reference.VaultLedger) : Prop where
  ids : v.ids = l.ids
  mirrors : ∀ id ∈ l.ids, Mirrors (l.facilities id) (v.facilities id)
  narrow : ∀ id, (l.facilities id).Narrow
  fees : ∀ id, (l.facilities id).fees = 0

/-- The contracts and the book at `now`. -/
structure Books (now : Nat) (p : Pool) (v : Reference.VaultLedger) : Prop where
  losses : p.Losses now
  mirrored : Mirrored p.ledger v
  clock : v.clock = now
  offset : v.virtualShares = virtualShares ∧ v.virtualAssets = virtualAssets
  supply : v.totalShares = p.vault.totalShares
  cash : v.cash + p.vault.totalBorrowerOwned = p.cashBalance
  unreserved : p.vault.totalWithdrawalReserved = 0 ∧ p.vault.totalRecoveryReserved = 0
  epoch : ∀ id, p.vault.isWrittenOff id = true → p.vault.writeOffEpoch id = p.vault.currentEpoch
  impaired : ∀ id ∈ p.ledger.ids, (v.facilities id).impaired = p.vault.isWrittenOff id
  allowance : ∀ id, v.impairmentBy id = p.vault.impairmentOf id
  reserve : ∀ id, v.borrowerReserve id = 0

/-! ### NAV and conversions -/

/-- The book value of the vault, without words. -/
def Pool.bookValue (p : Pool) (t : Nat) : Nat :=
  p.cashBalance - p.vault.liabilities + p.performingDebt t - p.vault.totalImpairment

/-- The words of NAV and of the conversions do not overflow at `t`. -/
structure Pool.Fits (t : Nat) (p : Pool) : Prop where
  assets : p.cashBalance + (p.ledger.ids.map fun id => p.ledger.debtAt id t).sum + virtualAssets <
    wordSize 256
  shares : p.vault.totalShares + virtualShares < wordSize 256

/-- The book returns a number. The view of the vault returns no other one, and it does return when
its words fit. -/
def Agrees (x : Except Revert Nat) (y : Except Reference.AccountingError Int) (fits : Nat → Prop) :
    Prop :=
  ∃ n : Nat, y = .ok (n : Int) ∧ (∀ n', x = .ok n' → n' = n) ∧ (fits n → x = .ok n)

namespace Reference.VaultLedger

/-- The sum of a list of views that all return. -/
theorem sumInterest_ok {v : VaultLedger} {interest : FacilityId → Nat} {ids : List FacilityId}
    (h : ∀ id ∈ ids, (v.facilities id).unpaidInterestAt v.clock = .ok (interest id))
    (total : Nat) : v.sumInterest ids total = .ok (total + (ids.map interest).sum) := by
  induction ids generalizing total with
  | nil => rfl
  | cons id rest ih =>
    unfold sumInterest
    rw [h id List.mem_cons_self, ok_bind, ih (fun i hi => h i (List.mem_cons_of_mem _ hi)),
      List.map_cons, List.sum_cons, Nat.add_assoc]

end Reference.VaultLedger

/-- A narrow facility can be read when its debt is a word. -/
theorem Facility.Narrow.legalDebtAt {f : Facility} {t : Nat} (h : f.Narrow)
    (ht : t < wordSize 64) (hword : f.debtAt t < wordSize 256) :
    f.legalDebtAt t = .ok (f.debtAt t) := by
  unfold Facility.debtAt at hword ⊢
  unfold Facility.legalDebtAt
  rw [addW_eq_ok.mpr ⟨by omega, rfl⟩, ok_bind, h.unpaidInterestAt ht, ok_bind]
  exact addW_eq_ok.mpr ⟨hword, rfl⟩

theorem Ledger.sumLegalDebtAt_fits {l : Ledger} {t : Nat} {ids : List FacilityId}
    (h : ∀ id ∈ ids, (l.facilities id).Narrow) (ht : t < wordSize 64) {total : Nat}
    (hword : total + (ids.map fun id => l.debtAt id t).sum < wordSize 256) :
    l.sumLegalDebtAt t ids total = .ok (total + (ids.map fun id => l.debtAt id t).sum) := by
  induction ids generalizing total with
  | nil => rfl
  | cons id rest ih =>
    rw [List.map_cons, List.sum_cons, ← Nat.add_assoc] at hword ⊢
    have hdebt := (h id List.mem_cons_self).legalDebtAt ht
      (show l.debtAt id t < wordSize 256 by omega)
    unfold sumLegalDebtAt
    rw [hdebt, ok_bind, addW_eq_ok.mpr ⟨?_, rfl⟩, ok_bind]
    · exact ih (fun i hi => h i (List.mem_cons_of_mem _ hi)) hword
    · show total + l.debtAt id t < wordSize 256
      omega

/-- The total of a ledger of narrow facilities returns when it is a word. -/
theorem Ledger.totalLegalDebtAt_fits {l : Ledger} {t : Nat}
    (h : ∀ id ∈ l.ids, (l.facilities id).Narrow) (ht : t < wordSize 64)
    (hword : (l.ids.map fun id => l.debtAt id t).sum < wordSize 256) :
    l.totalLegalDebtAt t = .ok (l.ids.map fun id => l.debtAt id t).sum := by
  unfold totalLegalDebtAt
  rw [sumLegalDebtAt_fits h ht (by rw [Nat.zero_add]; exact hword), Nat.zero_add]

namespace Books

variable {now : Nat} {p : Pool} {v : Reference.VaultLedger}

/-- The performing facilities of both. -/
theorem performing_eq (h : Books now p v) :
    v.performing = p.ledger.ids.filter fun id => !p.vault.isWrittenOff id := by
  unfold Reference.VaultLedger.performing
  rw [h.mirrored.ids]
  apply List.filter_congr
  intro id hid
  rw [h.impaired id hid]

theorem sum_performing (h : Books now p v) (x : FacilityId → Nat) :
    (v.performing.map x).sum = ∑ id ∈ p.performing, x id := by
  have hnodup : (p.ledger.ids.filter fun id => !p.vault.isWrittenOff id).Nodup :=
    h.losses.ledger.nodup.filter _
  rw [h.performing_eq, ← List.sum_toFinset x hnodup, List.toFinset_filter]
  unfold Pool.performing
  congr 1
  ext id
  simp

theorem performingInterest_eq (h : Books now p v) :
    v.performingInterest = .ok (∑ id ∈ p.performing, units ((p.ledger.facilities id).accumAt now)) := by
  have hview : ∀ id ∈ v.performing, (v.facilities id).unpaidInterestAt v.clock =
      .ok (units ((p.ledger.facilities id).accumAt now)) := by
    intro id hid
    rw [h.clock]
    apply (h.mirrored.mirrors id ?_).unpaidInterestAt_eq
    rw [← h.mirrored.ids]
    exact List.mem_of_mem_filter hid
  unfold Reference.VaultLedger.performingInterest
  rw [Reference.VaultLedger.sumInterest_ok hview, Nat.zero_add, h.sum_performing]

theorem performingPrincipal_eq (h : Books now p v) :
    v.performingPrincipal = ((∑ id ∈ p.performing, (p.ledger.facilities id).principal : Nat) : Int) := by
  unfold Reference.VaultLedger.performingPrincipal
  rw [h.sum_performing]
  congr 1
  apply Finset.sum_congr rfl
  intro id hid
  apply (h.mirrored.mirrors id ?_).principal
  simpa using (Finset.mem_filter.mp hid).1

theorem impairment_eq (h : Books now p v) : v.impairment = p.vault.totalImpairment := by
  have hallowance : v.impairmentBy = fun id => ((p.vault.impairmentOf id : Nat) : Int) := by
    funext id
    exact h.allowance id
  have hcast : ∀ ids : List FacilityId, (ids.map fun id => ((p.vault.impairmentOf id : Nat) : Int)).sum =
      (((ids.map p.vault.impairmentOf).sum : Nat) : Int) := by
    intro ids
    induction ids with
    | nil => rfl
    | cons id rest ih =>
      simp only [List.map_cons, List.sum_cons, ih, Nat.cast_add]
  unfold Reference.VaultLedger.impairment
  rw [hallowance, hcast, h.sum_performing, h.losses.sum_impairment]

/-- The debt without fees, facility by facility. -/
theorem performingDebt_eq (h : Books now p v) :
    p.performingDebt now = (∑ id ∈ p.performing, (p.ledger.facilities id).principal) +
      ∑ id ∈ p.performing, units ((p.ledger.facilities id).accumAt now) := by
  unfold Pool.performingDebt
  rw [← Finset.sum_add_distrib]
  apply Finset.sum_congr rfl
  intro id _
  unfold Ledger.debtAt Facility.debtAt
  rw [h.mirrored.fees id, Nat.add_zero]

/-- The NAV of the book is the book value of the vault. -/
theorem nav_eq (h : Books now p v) (hs : p.Solvent) :
    v.nav = .ok ((p.bookValue now : Nat) : Int) := by
  have himp := h.losses.totalImpairment_le (Nat.le_refl now)
  have hdebt := h.performingDebt_eq
  have hcash := h.cash
  have hcover := hs.covered.trans hs.present
  have hliabilities : p.vault.liabilities = p.vault.totalBorrowerOwned := by
    unfold Vault.liabilities
    rw [h.unreserved.1, h.unreserved.2, Nat.add_zero]
  unfold Reference.VaultLedger.nav Pool.bookValue
  rw [h.performingInterest_eq, ok_bind, h.performingPrincipal_eq, h.impairment_eq]
  refine congrArg Except.ok ?_
  rw [hliabilities] at hcover ⊢
  omega

/-- The book value is at most what NAV adds up on the way. -/
theorem bookValue_le (h : Books now p v) :
    p.bookValue now ≤ p.cashBalance + (p.ledger.ids.map fun id => p.ledger.debtAt id now).sum := by
  have hsum := h.losses.sum_debt_eq now
  unfold Pool.bookValue
  omega

theorem nav_agrees (h : Books now p v) (hs : p.Solvent) (hnow : now < wordSize 64) :
    Agrees (p.nav now) v.nav fun _ => p.Fits now := by
  have himp := h.losses.totalImpairment_le (Nat.le_refl now)
  have hcover := hs.covered.trans hs.present
  refine ⟨p.bookValue now, h.nav_eq hs, ?_, ?_⟩
  · intro n hn
    have hval := hs.nav_ok h.losses (Nat.le_refl now) hn
    unfold Pool.bookValue
    omega
  · intro hfits
    have hassets := hfits.assets
    have hsum := h.losses.sum_debt_eq now
    have htotal := Ledger.totalLegalDebtAt_fits (l := p.ledger) (t := now)
      (fun id _ => h.mirrored.narrow id) hnow (by omega)
    rw [hs.nav_eq h.losses htotal, addW_eq_ok.mpr ⟨by omega, rfl⟩]
    rfl

/-- The quotient of two naturals, rounded down, is the one of the book. -/
theorem floorDiv_cast {a b : Nat} (hb : b ≠ 0) :
    Reference.VaultLedger.floorDiv (a : Int) (b : Int) = .ok ((a / b : Nat) : Int) := by
  unfold Reference.VaultLedger.floorDiv
  rw [if_neg (by omega), Int.fdiv_eq_ediv_of_nonneg _ (Int.natCast_nonneg b), Int.natCast_ediv]

theorem convertToShares_agrees (h : Books now p v) (hs : p.Solvent) (hnow : now < wordSize 64)
    (assets : Nat) :
    Agrees (p.convertToShares now assets) (v.convertToShares assets)
      fun q => p.Fits now ∧ q < wordSize 256 := by
  obtain ⟨n, hnav, honly, hreturns⟩ := h.nav_agrees hs hnow
  obtain rfl : n = p.bookValue now := by
    have := hnav.symm.trans (h.nav_eq hs)
    simpa using this
  refine ⟨assets * (p.vault.totalShares + virtualShares) / (p.bookValue now + virtualAssets),
    ?_, ?_, ?_⟩
  · unfold Reference.VaultLedger.convertToShares
    rw [hnav, ok_bind, h.supply, h.offset.1, h.offset.2]
    exact floorDiv_cast (a := assets * (p.vault.totalShares + virtualShares)) (Nat.succ_ne_zero _)
  · intro q hq
    obtain ⟨n', hn', rfl⟩ := Pool.convertToShares_ok hq
    rw [honly n' hn']
  · rintro ⟨hfits, hword⟩
    have hle := h.bookValue_le
    have hassets := hfits.assets
    unfold Pool.convertToShares
    rw [addW_eq_ok.mpr ⟨hfits.shares, rfl⟩, ok_bind, hreturns hfits, ok_bind,
      addW_eq_ok.mpr ⟨by omega, rfl⟩, ok_bind]
    exact mulDiv_eq_ok.mpr ⟨Nat.succ_ne_zero _, hword, rfl⟩

theorem convertToAssets_agrees (h : Books now p v) (hs : p.Solvent) (hnow : now < wordSize 64)
    (shares : Nat) :
    Agrees (p.convertToAssets now shares) (v.convertToAssets shares)
      fun q => p.Fits now ∧ q < wordSize 256 := by
  obtain ⟨n, hnav, honly, hreturns⟩ := h.nav_agrees hs hnow
  obtain rfl : n = p.bookValue now := by
    have := hnav.symm.trans (h.nav_eq hs)
    simpa using this
  refine ⟨shares * (p.bookValue now + virtualAssets) / (p.vault.totalShares + virtualShares),
    ?_, ?_, ?_⟩
  · unfold Reference.VaultLedger.convertToAssets
    rw [hnav, ok_bind, h.supply, h.offset.1, h.offset.2]
    exact floorDiv_cast (a := shares * (p.bookValue now + virtualAssets)) (Nat.succ_ne_zero _)
  · intro q hq
    obtain ⟨n', hn', rfl⟩ := Pool.convertToAssets_ok hq
    rw [honly n' hn']
  · rintro ⟨hfits, hword⟩
    have hle := h.bookValue_le
    have hassets := hfits.assets
    unfold Pool.convertToAssets
    rw [hreturns hfits, ok_bind, addW_eq_ok.mpr ⟨by omega, rfl⟩, ok_bind,
      addW_eq_ok.mpr ⟨hfits.shares, rfl⟩, ok_bind]
    exact mulDiv_eq_ok.mpr ⟨Nat.succ_ne_zero _, hword, rfl⟩

end Books

/-! ### What the methods of the book do -/

namespace Reference

namespace FacilityLedger

variable {g g' : FacilityLedger} {time amount : Nat} {alloc : Allocation}

theorem accrue_impaired (h : g.accrue time = .ok g') : g'.impaired = g.impaired := by
  unfold accrue at h
  obtain ⟨_, -, h⟩ := bind_eq_ok.mp h
  split at h
  · rw [← pure_eq_ok.mp h]
  · obtain ⟨accum, -, h⟩ := bind_eq_ok.mp h
    rw [← pure_eq_ok.mp h]

theorem borrow_impaired (h : g.borrow time amount = .ok g') : g'.impaired = g.impaired := by
  unfold borrow at h
  obtain ⟨_, -, h⟩ := bind_eq_ok.mp h
  obtain ⟨g₁, hg₁, h⟩ := bind_eq_ok.mp h
  rw [← pure_eq_ok.mp h, ← accrue_impaired hg₁]
  dsimp only
  split <;> rfl

theorem allocateRepayment_impaired (h : g.allocateRepayment time amount = .ok (alloc, g')) :
    g'.impaired = g.impaired := by
  unfold allocateRepayment at h
  obtain ⟨_, -, h⟩ := bind_eq_ok.mp h
  obtain ⟨g₁, hg₁, h⟩ := bind_eq_ok.mp h
  have hres := pure_eq_ok.mp h
  simp only [Prod.mk.injEq] at hres
  rw [← hres.2, ← accrue_impaired hg₁]

end FacilityLedger

namespace VaultLedger

variable {v v' : VaultLedger} {id : FacilityId} {g : FacilityLedger} {time amount : Nat}

theorem tick_ok (h : v.tick time = .ok v') : v' = { v with clock := time } := by
  unfold tick at h
  obtain ⟨_, -, h⟩ := bind_eq_ok.mp h
  exact (pure_eq_ok.mp h).symm

theorem facility_ok (h : v.facility id = .ok g) : id ∈ v.ids ∧ g = v.facilities id := by
  unfold facility at h
  split at h
  · rename_i hmem
    cases h
    exact ⟨hmem, rfl⟩
  · cases h

/-- The excess leaves the LP cash, also when it is zero. -/
theorem owe_eq (v : VaultLedger) (id : FacilityId) (excess : Nat) :
    ∃ refundable, v.owe id excess =
      { v with cash := v.cash - excess, borrowerRefundable := refundable } := by
  unfold owe
  split
  · exact ⟨_, rfl⟩
  · rename_i hzero
    have hexcess : excess = 0 := by simpa using hzero
    refine ⟨v.borrowerRefundable, ?_⟩
    rw [hexcess, Nat.cast_zero, Int.sub_zero]

/-- A third-party repayment: the cash comes with the call. -/
theorem repayFor_ok {alloc : Allocation} (h : v.repayFor id time amount true = .ok (alloc, v')) :
    id ∈ v.ids ∧ ∃ g', (v.facilities id).allocateRepayment time amount = .ok (alloc, g') ∧
      v' = (({ v with clock := time, cash := v.cash + amount } : VaultLedger).setFacility id g').owe
        id alloc.excess := by
  unfold repayFor at h
  obtain ⟨g, hg, h⟩ := bind_eq_ok.mp h
  obtain ⟨v₁, hv₁, h⟩ := bind_eq_ok.mp h
  obtain ⟨⟨alloc', g'⟩, hg', h⟩ := bind_eq_ok.mp h
  have hres := pure_eq_ok.mp h
  simp only [Prod.mk.injEq] at hres
  obtain ⟨rfl, rfl⟩ := hres
  obtain ⟨hid, rfl⟩ := facility_ok hg
  obtain rfl := tick_ok hv₁
  exact ⟨hid, g', hg', rfl⟩

/-- A recovery is booked as a third-party repayment is. -/
theorem recover_eq (v : VaultLedger) (id : FacilityId) (time amount : Nat) :
    v.recover id time amount = v.repayFor id time amount true := rfl

end VaultLedger

end Reference

/-! ### One operation -/

namespace Facility

variable {f f' : Facility} {now amount : Nat} {id : FacilityId}

theorem recordDraw_fees (h : f.recordDraw now id amount = .ok f') : f'.fees = f.fees := by
  unfold recordDraw at h
  obtain ⟨_, -, h⟩ := bind_eq_ok.mp h
  obtain ⟨_, -, h⟩ := bind_eq_ok.mp h
  obtain ⟨a, ha, h⟩ := bind_eq_ok.mp h
  obtain ⟨newPrincipal, -, h⟩ := bind_eq_ok.mp h
  obtain ⟨_, -, h⟩ := bind_eq_ok.mp h
  rw [← pure_eq_ok.mp h, (accrue_ok ha).2]
  rfl

theorem freezeAccrual_fees (h : f.freezeAccrual now = .ok f') : f'.fees = f.fees := by
  unfold freezeAccrual at h
  obtain ⟨a, ha, h⟩ := bind_eq_ok.mp h
  rw [← pure_eq_ok.mp h, (accrue_ok ha).2]
  rfl

theorem allocate_fees {r : RepayResult} (h : f.allocate now amount = .ok (r, f')) :
    f'.fees ≤ f.fees := by
  unfold allocate at h
  obtain ⟨_, -, h⟩ := bind_eq_ok.mp h
  obtain ⟨a, ha, h⟩ := bind_eq_ok.mp h
  obtain ⟨x, -, h⟩ := bind_eq_ok.mp h
  obtain ⟨y, -, h⟩ := bind_eq_ok.mp h
  obtain ⟨d, -, h⟩ := bind_eq_ok.mp h
  have hres := pure_eq_ok.mp h
  simp only [Prod.mk.injEq] at hres
  rw [← hres.2, (accrue_ok ha).2]
  exact Nat.sub_le _ _

end Facility

namespace Mirrored

variable {l : Ledger} {v : Reference.VaultLedger}

/-- Both write the facility `id`. -/
theorem set (h : Mirrored l v) (id : FacilityId) {f : Facility} {g : Reference.FacilityLedger} (hm : Mirrors f g)
    (hn : f.Narrow) (hf : f.fees = 0) :
    Mirrored { l with facilities := Function.update l.facilities id f } (v.setFacility id g) := by
  refine ⟨h.ids, fun i hi => ?_, fun i => ?_, fun i => ?_⟩
  · show Mirrors (Function.update l.facilities id f i) (Function.update v.facilities id g i)
    by_cases hid : i = id
    · subst hid
      rw [Function.update_self, Function.update_self]
      exact hm
    · rw [Function.update_of_ne hid, Function.update_of_ne hid]
      exact h.mirrors i hi
  · show (Function.update l.facilities id f i).Narrow
    by_cases hid : i = id
    · subst hid
      rw [Function.update_self]
      exact hn
    · rw [Function.update_of_ne hid]
      exact h.narrow i
  · show (Function.update l.facilities id f i).fees = 0
    by_cases hid : i = id
    · subst hid
      rw [Function.update_self]
      exact hf
    · rw [Function.update_of_ne hid]
      exact h.fees i

end Mirrored

namespace Books

variable {m : Msg} {now : Nat} {p p' : Pool} {v v' : Reference.VaultLedger} {id : FacilityId}
  {amount : Nat} {g : Reference.FacilityLedger}

/-- A method that keeps the flag of its facility keeps all flags. -/
theorem impaired_set (h : Books now p v) (hg : g.impaired = (v.facilities id).impaired) :
    ∀ i ∈ p.ledger.ids, ((v.setFacility id g).facilities i).impaired = p.vault.isWrittenOff i := by
  intro i hi
  show (Function.update v.facilities id g i).impaired = p.vault.isWrittenOff i
  by_cases hid : i = id
  · subst hid
    rw [Function.update_self, hg]
    exact h.impaired i hi
  · rw [Function.update_of_ne hid]
    exact h.impaired i hi

/-- No part of a recovery belongs to a closed epoch. -/
theorem oldEpochPart_eq_zero (h : Books now p v) (id : FacilityId) (amount : Nat) :
    p.oldEpochPart id amount = 0 := by
  unfold Pool.oldEpochPart
  rw [if_neg]
  rintro ⟨hoff, -, hlt⟩
  rw [h.epoch id hoff] at hlt
  exact Nat.lt_irrefl _ hlt

theorem tick {t : Nat} (h : Books now p v) (hle : now ≤ t) (hv : v.tick t = .ok v') :
    Books t p v' := by
  obtain rfl := Reference.VaultLedger.tick_ok hv
  exact ⟨h.losses.later hle, ⟨h.mirrored.ids, h.mirrored.mirrors, h.mirrored.narrow,
    h.mirrored.fees⟩, rfl, h.offset, h.supply, h.cash, h.unreserved, h.epoch, h.impaired,
    h.allowance, h.reserve⟩

/-- A second tick in the same second. -/
theorem tick_self (h : Books m.now p v) (hv : v.tick m.now = .ok v') : v' = v := by
  obtain rfl := Reference.VaultLedger.tick_ok hv
  rw [← h.clock]

/-- Cash that comes to the vault, as the book enters it. -/
theorem receive (h : Books now p v) {token : Token Address}
    (htoken : token.balanceOf p.vault.self = p.cashBalance + amount) :
    Books now { p with token := token } { v with cash := v.cash + amount } := by
  refine ⟨h.losses.keep rfl rfl rfl rfl, ⟨h.mirrored.ids, h.mirrored.mirrors, h.mirrored.narrow,
    h.mirrored.fees⟩, h.clock, h.offset, h.supply, ?_, h.unreserved, h.epoch, h.impaired,
    h.allowance, h.reserve⟩
  show v.cash + amount + (p.vault.totalBorrowerOwned : Int) = (token.balanceOf p.vault.self : Nat)
  have hcash := h.cash
  rw [htoken]
  omega

theorem openFacility {terms : Terms} {l : Ledger} (h : Books m.now p v)
    (hnow : m.now < wordSize 64) (hplain : terms.capitalizeUnpaidInterest = false)
    (hrate : terms.rateBps < wordSize 32) (hl : p.ledger.openFacility m id terms = .ok l) :
    Books m.now { p with ledger := l }
      (v.openFacility id ⟨terms.rateBps, terms.capitalizeUnpaidInterest⟩ m.now) := by
  have hlosses := h.losses.grow (.of_open hl)
  have hfacility := Ledger.openFacility_ok h.losses.ledger hl
  obtain ⟨hnew, hids, hother⟩ := Ledger.openFacility_frame h.losses.ledger hl
  have hnot : id ∉ v.ids := by
    rw [h.mirrored.ids]
    exact hnew
  have hsame : ∀ i, i ≠ id → (v.openFacility id
      ⟨terms.rateBps, terms.capitalizeUnpaidInterest⟩ m.now).facilities i = v.facilities i := by
    intro i hid
    exact Function.update_of_ne hid _ _
  have hself : (v.openFacility id
      ⟨terms.rateBps, terms.capitalizeUnpaidInterest⟩ m.now).facilities id =
        .new ⟨terms.rateBps, terms.capitalizeUnpaidInterest⟩ m.now :=
    Function.update_self _ _ _
  have hmem : ∀ i ∈ l.ids, i ≠ id → i ∈ p.ledger.ids := by
    intro i hi hid
    rw [hids] at hi
    simpa [hid] using hi
  refine ⟨hlosses, ⟨?_, ?_, ?_, ?_⟩, h.clock, h.offset, h.supply, h.cash, h.unreserved, h.epoch, ?_,
    h.allowance, h.reserve⟩
  · show (if id ∈ v.ids then v.ids else v.ids ++ [id]) = l.ids
    rw [if_neg hnot, h.mirrored.ids, hids]
  · intro i hi
    by_cases hid : i = id
    · subst hid
      rw [hself, hfacility]
      exact .opened ⟨rfl, rfl, rfl⟩ rfl rfl rfl rfl hplain
    · rw [hsame i hid, hother i hid]
      exact h.mirrored.mirrors i (hmem i hi hid)
  · intro i
    by_cases hid : i = id
    · subst hid
      rw [hfacility]
      exact ⟨Nat.zero_le _, hrate, hnow, Nat.zero_le _⟩
    · rw [hother i hid]
      exact h.mirrored.narrow i
  · intro i
    by_cases hid : i = id
    · subst hid
      rw [hfacility]
      rfl
    · rw [hother i hid]
      exact h.mirrored.fees i
  · intro i hi
    by_cases hid : i = id
    · subst hid
      rw [hself]
      symm
      show p.vault.isWrittenOff i = false
      by_contra hoff
      have hopen := h.losses.isOpen i ((h.losses.mem_iff i).mpr (by simpa using hoff))
      exact hnew hopen
    · rw [hsame i hid]
      exact h.impaired i (hmem i hi hid)

theorem deposit {assets minShares shares : Nat} {lp : Address} {x : Int} (h : Books m.now p v)
    (hs : p.Solvent) (hnow : m.now < wordSize 64)
    (hp : p.deposit m assets minShares = .ok (shares, p'))
    (hv : v.deposit lp assets = .ok (x, v')) : Books m.now p' v' := by
  obtain ⟨-, -, -, hshares, token, htoken, rfl⟩ := Pool.deposit_ok hp
  obtain ⟨n, hquote, honly, -⟩ := h.convertToShares_agrees hs hnow assets
  unfold Reference.VaultLedger.deposit at hv
  rw [hquote, ok_bind] at hv
  obtain ⟨_, -, hv⟩ := bind_eq_ok.mp hv
  obtain rfl := honly shares hshares
  have hres := pure_eq_ok.mp hv
  simp only [Prod.mk.injEq] at hres
  obtain ⟨-, rfl⟩ := hres
  refine ⟨h.losses.keep rfl rfl rfl rfl, ⟨h.mirrored.ids, h.mirrored.mirrors, h.mirrored.narrow,
    h.mirrored.fees⟩, h.clock, h.offset, ?_, ?_, h.unreserved, h.epoch, h.impaired, h.allowance,
    h.reserve⟩
  · show v.totalShares + (shares : Int) = ((p.vault.totalShares + shares : Nat) : Int)
    rw [h.supply, Nat.cast_add]
  · show v.cash + assets + (p.vault.totalBorrowerOwned : Int) = (token.balanceOf p.vault.self : Nat)
    have hcash := h.cash
    rw [htoken.self]
    omega

theorem withdraw {shares minAssets assets : Nat} {lp : Address} {x : Int} (h : Books m.now p v)
    (hs : p.Solvent) (hnow : m.now < wordSize 64)
    (hp : p.withdraw m shares minAssets = .ok (assets, p'))
    (hv : v.withdraw lp shares = .ok (x, v')) : Books m.now p' v' := by
  obtain ⟨-, -, -, -, hassets, -, -, hsupply, token, htoken, rfl⟩ := Pool.withdraw_ok hp
  obtain ⟨n, hquote, honly, -⟩ := h.convertToAssets_agrees hs hnow shares
  unfold Reference.VaultLedger.withdraw at hv
  obtain ⟨_, -, hv⟩ := bind_eq_ok.mp hv
  rw [hquote, ok_bind] at hv
  obtain ⟨_, -, hv⟩ := bind_eq_ok.mp hv
  obtain rfl := honly assets hassets
  have hres := pure_eq_ok.mp hv
  simp only [Prod.mk.injEq] at hres
  obtain ⟨-, rfl⟩ := hres
  refine ⟨h.losses.keep rfl rfl rfl rfl, ⟨h.mirrored.ids, h.mirrored.mirrors, h.mirrored.narrow,
    h.mirrored.fees⟩, h.clock, h.offset, ?_, ?_, h.unreserved, h.epoch, h.impaired, h.allowance,
    h.reserve⟩
  · show v.totalShares - (shares : Int) = ((p.vault.totalShares - shares : Nat) : Int)
    rw [h.supply, Nat.cast_sub hsupply]
  · show v.cash - assets + (p.vault.totalBorrowerOwned : Int) = (token.balanceOf p.vault.self : Nat)
    have hcash := h.cash
    have hpaid := htoken.self
    omega

theorem draw {dst : Address} {l : Ledger} (h : Books m.now p v) (hnow : m.now < wordSize 64)
    (hl : p.ledger.recordDraw m id amount = .ok l)
    (hp : Pool.lend m id dst amount { p with ledger := l } = .ok p')
    (hv : v.draw id m.now amount = .ok v') : Books m.now p' v' := by
  have hgrows := LedgerCall.exec_grows (m := m) (l := p.ledger) (c := .recordDraw id amount)
    (fun _ _ heq => by cases heq) hl
  have hlosses := h.losses.grow hgrows
  obtain ⟨-, f', hf, rfl⟩ := Ledger.modifyFacility_ok hl
  obtain ⟨-, -, -, token, htoken, rfl⟩ := Pool.lend_ok hp
  unfold Reference.VaultLedger.draw at hv
  obtain ⟨g, hg, hv⟩ := bind_eq_ok.mp hv
  obtain ⟨_, -, hv⟩ := bind_eq_ok.mp hv
  obtain ⟨v₁, hv₁, hv⟩ := bind_eq_ok.mp hv
  obtain ⟨g', hg', hv⟩ := bind_eq_ok.mp hv
  obtain rfl := pure_eq_ok.mp hv
  obtain ⟨hid, rfl⟩ := Reference.VaultLedger.facility_ok hg
  obtain rfl := h.tick_self hv₁
  rw [h.mirrored.ids] at hid
  obtain ⟨g'', hborrow, hmirror⟩ := (h.mirrored.mirrors id hid).recordDraw hf
  obtain rfl : g' = g'' := by
    rw [hg'] at hborrow
    exact Except.ok.inj hborrow
  have hmirrored := h.mirrored.set id hmirror ((h.mirrored.narrow id).recordDraw hnow hf)
    ((Facility.recordDraw_fees hf).trans (h.mirrored.fees id))
  have himpaired := h.impaired_set (Reference.FacilityLedger.borrow_impaired hg')
  refine ⟨hlosses.keep rfl rfl rfl rfl, ⟨hmirrored.ids, hmirrored.mirrors, hmirrored.narrow,
    hmirrored.fees⟩, h.clock, h.offset, h.supply, ?_, h.unreserved, h.epoch, himpaired, h.allowance,
    h.reserve⟩
  show v₁.cash - amount + (p.vault.totalBorrowerOwned : Int) = (token.balanceOf p.vault.self : Nat)
  have hcash := h.cash
  have hpaid : token.balanceOf p.vault.self + amount = p.cashBalance := htoken.self
  omega

/-- The allocation of a payment whose cash has arrived, in both. -/
theorem allocate {r : RepayResult} {l : Ledger} {alloc : Reference.Allocation}
    (h : Books m.now p v) (hnow : m.now < wordSize 64)
    (hl : p.ledger.allocate m id amount = .ok (r, l)) (hid : id ∈ v.ids)
    (hg : (v.facilities id).allocateRepayment m.now amount = .ok (alloc, g)) :
    alloc.excess = r.excess ∧ Mirrored l (v.setFacility id g) := by
  rw [h.mirrored.ids] at hid
  obtain ⟨-, f', hf, rfl⟩ := Ledger.allocate_body hl
  obtain ⟨g', hallocate, hmirror⟩ := (h.mirrored.mirrors id hid).allocate hf
  rw [hallocate] at hg
  have hres := Except.ok.inj hg
  simp only [Prod.mk.injEq] at hres
  obtain ⟨rfl, rfl⟩ := hres
  have hfees : f'.fees = 0 := by
    have hle := Facility.allocate_fees hf
    rw [h.mirrored.fees id] at hle
    exact Nat.le_zero.mp hle
  exact ⟨rfl, h.mirrored.set id hmirror ((h.mirrored.narrow id).allocate hnow hf) hfees⟩

theorem repay {r : RepayResult} {requested : Nat} {alloc : Reference.Allocation}
    (h : Books m.now p { v with cash := v.cash + amount }) (hnow : m.now < wordSize 64)
    (hregular : p.vault.impairmentOf id ≤ p.ledger.debtAt id m.now - amount)
    (hp : p.repay m id amount requested = .ok (r, p'))
    (hv : v.repayFor id m.now amount true = .ok (alloc, v')) : Books m.now p' v' := by
  have hlosses := Pool.repay_losses h.losses hp
  obtain ⟨split, l, hl, rfl, hrepay⟩ := Pool.repay_ok hp
  obtain ⟨-, -, -, -, happlied, hnew, hfall, -, hids, -⟩ := Ledger.allocate_ok hl
  obtain ⟨-, -, -, -, -, rfl⟩ := Pool.onRepayment_ok hrepay
  obtain ⟨hid, g', hg', rfl⟩ := Reference.VaultLedger.repayFor_ok hv
  obtain ⟨hexcess, hmirrored⟩ := h.allocate hnow hl hid hg'
  have himpaired := h.impaired_set (Reference.FacilityLedger.allocateRepayment_impaired hg')
  -- The debt that is left covers the allowance, so nothing is released.
  have hrelease : Pool.impairmentRelease { p with ledger := l } id split.newDebt = 0 := by
    show p.vault.impairmentOf id - split.newDebt = 0
    omega
  have hold : Pool.oldEpochPart { p with ledger := l } id split.applied = 0 :=
    h.oldEpochPart_eq_zero id split.applied
  obtain ⟨refundable, howe⟩ := Reference.VaultLedger.owe_eq
    (({ v with clock := m.now, cash := v.cash + amount } : Reference.VaultLedger).setFacility id g')
    id alloc.excess
  rw [howe]
  refine ⟨hlosses, ⟨hmirrored.ids, hmirrored.mirrors, hmirrored.narrow, hmirrored.fees⟩, rfl,
    h.offset, h.supply, ?_, ⟨h.unreserved.1, ?_⟩, h.epoch, ?_, ?_, h.reserve⟩
  · show v.cash + amount - (alloc.excess : Int) +
      ((p.vault.totalBorrowerOwned + split.excess : Nat) : Int) = (p.cashBalance : Nat)
    have hcash : v.cash + amount + (p.vault.totalBorrowerOwned : Int) = (p.cashBalance : Nat) :=
      h.cash
    rw [hexcess, Nat.cast_add]
    omega
  · show p.vault.totalRecoveryReserved + Pool.oldEpochPart { p with ledger := l } id split.applied = 0
    rw [hold, h.unreserved.2]
  · intro i hi
    exact himpaired i (hids ▸ hi)
  · intro i
    show v.impairmentBy i = ((Function.update p.vault.impairmentOf id (p.vault.impairmentOf id -
      Pool.impairmentRelease { p with ledger := l } id split.newDebt) i : Nat) : Int)
    rw [hrelease, Nat.sub_zero, Function.update_eq_self]
    exact h.allowance i

theorem recover {l : Ledger} {r : RepayResult} {alloc : Reference.Allocation}
    (h : Books m.now p { v with cash := v.cash + amount }) (hnow : m.now < wordSize 64)
    (hregular : amount ≤ p.ledger.debtAt id m.now)
    (hl : p.ledger.allocate m id amount = .ok (r, l))
    (hp : Pool.recordRecovery m id amount { p with ledger := l } = .ok p')
    (hv : v.recover id m.now amount = .ok (alloc, v')) : Books m.now p' v' := by
  have hwf := h.losses.ledger.allocate hl
  obtain ⟨-, -, -, hsplit, happlied, -, -, hother, hids, -⟩ := Ledger.allocate_ok hl
  obtain ⟨hoff, -, -, rfl⟩ := Pool.recordRecovery_ok hp
  rw [Reference.VaultLedger.recover_eq] at hv
  obtain ⟨hid, g', hg', rfl⟩ := Reference.VaultLedger.repayFor_ok hv
  obtain ⟨hexcess, hmirrored⟩ := h.allocate hnow hl hid hg'
  have himpaired := h.impaired_set (Reference.FacilityLedger.allocateRepayment_impaired hg')
  have hold : Pool.oldEpochPart { p with ledger := l } id amount = 0 :=
    h.oldEpochPart_eq_zero id amount
  have hzero : alloc.excess = 0 := by omega
  -- The facility is written off, so it is not impaired, whatever its debt.
  have hlosses : Pool.Losses m.now { p with ledger := l } := by
    refine ⟨hwf, h.losses.nodup, h.losses.mem_iff, fun i hi => ?_, h.losses.total, fun i => ?_,
      h.losses.impairment_zero⟩
    · show i ∈ l.ids
      rw [hids]
      exact h.losses.isOpen i hi
    · show p.vault.impairmentOf i ≤ l.debtAt i m.now
      by_cases heq : i = id
      · subst heq
        rw [h.losses.impairment_zero i hoff]
        exact Nat.zero_le _
      · rw [show l.debtAt i m.now = p.ledger.debtAt i m.now by
          simp only [Ledger.debtAt, hother i heq]]
        exact h.losses.impairment_le i
  obtain ⟨refundable, howe⟩ := Reference.VaultLedger.owe_eq
    (({ v with clock := m.now, cash := v.cash + amount } : Reference.VaultLedger).setFacility id g')
    id alloc.excess
  rw [howe, hzero, Nat.cast_zero, Int.sub_zero]
  refine ⟨hlosses.keep rfl rfl rfl rfl, ⟨hmirrored.ids, hmirrored.mirrors, hmirrored.narrow,
    hmirrored.fees⟩, rfl, h.offset, h.supply, h.cash, ⟨h.unreserved.1, ?_⟩, h.epoch, ?_,
    h.allowance, h.reserve⟩
  · show p.vault.totalRecoveryReserved + Pool.oldEpochPart { p with ledger := l } id amount = 0
    rw [hold, h.unreserved.2]
  · intro i hi
    exact himpaired i (hids ▸ hi)

theorem impair (h : Books m.now p v) (hp : p.recognizeImpairment m id amount = .ok p')
    (hv : v.impair id amount = .ok v') : Books m.now p' v' := by
  have hlosses := VaultCall.exec_losses (c := .recognizeImpairment id amount) h.losses hp
  obtain ⟨-, -, rfl⟩ := Pool.recognizeImpairment_ok hp
  unfold Reference.VaultLedger.impair at hv
  obtain ⟨g, -, hv⟩ := bind_eq_ok.mp hv
  obtain ⟨_, -, hv⟩ := bind_eq_ok.mp hv
  obtain rfl := pure_eq_ok.mp hv
  refine ⟨hlosses, ⟨h.mirrored.ids, h.mirrored.mirrors, h.mirrored.narrow, h.mirrored.fees⟩,
    h.clock, h.offset, h.supply, h.cash, h.unreserved, h.epoch, h.impaired, ?_, h.reserve⟩
  intro i
  show Function.update v.impairmentBy id (v.impairmentBy id + amount) i =
    ((Function.update p.vault.impairmentOf id (p.vault.impairmentOf id + amount) i : Nat) : Int)
  by_cases hid : i = id
  · subst hid
    rw [Function.update_self, Function.update_self, h.allowance, Nat.cast_add]
  · rw [Function.update_of_ne hid, Function.update_of_ne hid]
    exact h.allowance i

/-- A write-off: the accrual is frozen, then the facility leaves the book. -/
theorem writeOff {l : Ledger} (h : Books m.now p v) (hnow : m.now < wordSize 64)
    (hl : p.ledger.freezeAccrual m id = .ok l)
    (hp : Pool.writeOff m id { p with ledger := l } = .ok p')
    (hv : v.writeOff id m.now = .ok v') : Books m.now p' v' := by
  have hgrows := LedgerCall.exec_grows (m := m) (l := p.ledger) (c := .freezeAccrual id)
    (fun _ _ heq => by cases heq) hl
  have hlosses := VaultCall.exec_losses (c := .writeOff id) (h.losses.grow hgrows) hp
  obtain ⟨-, f', hf, rfl⟩ := Ledger.modifyFacility_ok hl
  obtain ⟨-, -, -, lost, -, rfl⟩ := Pool.writeOff_ok hp
  unfold Reference.VaultLedger.writeOff at hv
  obtain ⟨g, hg, hv⟩ := bind_eq_ok.mp hv
  obtain ⟨v₁, hv₁, hv⟩ := bind_eq_ok.mp hv
  obtain ⟨g₁, hg₁, hwritten⟩ := bind_eq_ok.mp hv
  obtain ⟨hid, rfl⟩ := Reference.VaultLedger.facility_ok hg
  obtain rfl := h.tick_self hv₁
  rw [h.mirrored.ids] at hid
  -- The borrower has no reserve, so nothing is repaid before the loss.
  rw [h.reserve id, Nat.zero_min] at hwritten
  dsimp only at hwritten
  rw [if_neg (by simp)] at hwritten
  obtain rfl := pure_eq_ok.mp hwritten
  obtain ⟨g₂, hg₂, hmirror⟩ := (h.mirrored.mirrors id hid).freezeAccrual hf
  unfold Reference.FacilityLedger.freeze at hg₂
  rw [hg₁, ok_bind] at hg₂
  obtain rfl := pure_eq_ok.mp hg₂
  have hmirrored := h.mirrored.set id (g := { g₁ with
      impaired := true
      accrualFrozen := true
      writtenOffPrincipal := g₁.writtenOffPrincipal + g₁.principal
      writtenOffInterest := g₁.writtenOffInterest + g₁.unpaidInterest })
    ⟨hmirror.principal, hmirror.fees, hmirror.interestAccum, hmirror.lastAccrualAt, hmirror.frozen,
      hmirror.segments, hmirror.started, hmirror.plain⟩
    ((h.mirrored.narrow id).freezeAccrual hnow hf)
    ((Facility.freezeAccrual_fees hf).trans (h.mirrored.fees id))
  refine ⟨hlosses, ⟨hmirrored.ids, hmirrored.mirrors, hmirrored.narrow, hmirrored.fees⟩, h.clock,
    h.offset, h.supply, h.cash, h.unreserved, ?_, ?_, ?_, h.reserve⟩
  · intro i hi
    show Function.update p.vault.writeOffEpoch id p.vault.currentEpoch i = p.vault.currentEpoch
    by_cases heq : i = id
    · subst heq
      rw [Function.update_self]
    · rw [Function.update_of_ne heq]
      apply h.epoch i
      have hflag : Function.update p.vault.isWrittenOff id true i = true := hi
      rwa [Function.update_of_ne heq] at hflag
  · intro i hi
    show (Function.update v₁.facilities id _ i).impaired =
      Function.update p.vault.isWrittenOff id true i
    by_cases heq : i = id
    · subst heq
      rw [Function.update_self, Function.update_self]
    · rw [Function.update_of_ne heq, Function.update_of_ne heq]
      exact h.impaired i hi
  · intro i
    show Function.update v₁.impairmentBy id 0 i =
      ((Function.update p.vault.impairmentOf id 0 i : Nat) : Int)
    by_cases heq : i = id
    · subst heq
      rw [Function.update_self, Function.update_self]
      rfl
    · rw [Function.update_of_ne heq, Function.update_of_ne heq]
      exact h.allowance i

/-- A call that only configures the contracts. -/
theorem configure {call : PoolCall} (h : Books now p v) (hc : call.configures = true)
    (hp : p.exec m call = .ok p') : Books now p' v := by
  have hwiring : ∀ a b c d, Books now (p.withWiring a b c d) v := fun a b c d =>
    ⟨h.losses.keep rfl rfl rfl rfl, h.mirrored, h.clock, h.offset, h.supply, h.cash, h.unreserved,
      h.epoch, h.impaired, h.allowance, h.reserve⟩
  have hledger : ∀ l : Ledger, l.ids = p.ledger.ids → l.facilities = p.ledger.facilities →
      Books now { p with ledger := l } v := by
    intro l hids hfac
    refine ⟨h.losses.grow (.of_facilities hids hfac), ?_, h.clock, h.offset, h.supply, h.cash,
      h.unreserved, h.epoch, ?_, h.allowance, h.reserve⟩
    · refine ⟨h.mirrored.ids.trans hids.symm, ?_, ?_, ?_⟩
      · rw [hids, hfac]
        exact h.mirrored.mirrors
      · rw [hfac]
        exact h.mirrored.narrow
      · rw [hfac]
        exact h.mirrored.fees
    · rw [show ({ p with ledger := l } : Pool).ledger.ids = p.ledger.ids from hids]
      exact h.impaired
  match call, hc, hp with
  | .vault (.setManager ..), _, hp =>
    obtain ⟨a, b, c, d, rfl⟩ := Pool.setManager_ok hp
    exact hwiring a b c d
  | .vault .finalizeWiring, _, hp =>
    obtain ⟨a, b, c, d, rfl⟩ := Pool.finalizeWiring_ok hp
    exact hwiring a b c d
  | .vault (.bindRecoveryManager _), _, hp =>
    obtain ⟨a, b, c, d, rfl⟩ := Pool.bindRecoveryManager_ok hp
    exact hwiring a b c d
  | .vault (.setDepositsPaused _), _, hp =>
    obtain ⟨a, b, c, d, rfl⟩ := Pool.setDepositsPaused_ok hp
    exact hwiring a b c d
  | .ledger (.setWriter writer enabled), _, hp =>
    obtain ⟨l, hl, rfl⟩ := map_eq_ok.mp hp
    simp only [LedgerCall.exec, Ledger.setWriter] at hl
    obtain ⟨_, -, hl⟩ := bind_eq_ok.mp hl
    obtain ⟨_, -, hl⟩ := bind_eq_ok.mp hl
    obtain rfl := pure_eq_ok.mp hl
    exact hledger _ rfl rfl
  | .ledger .finalizeWiring, _, hp =>
    obtain ⟨l, hl, rfl⟩ := map_eq_ok.mp hp
    simp only [LedgerCall.exec, Ledger.finalizeWiring] at hl
    obtain ⟨_, -, hl⟩ := bind_eq_ok.mp hl
    obtain ⟨_, -, hl⟩ := bind_eq_ok.mp hl
    obtain rfl := pure_eq_ok.mp hl
    exact hledger _ rfl rfl
  | .token (.approve ..), _, hp =>
    cases hp
    exact ⟨h.losses.keep rfl rfl rfl rfl, h.mirrored, h.clock, h.offset, h.supply, h.cash,
      h.unreserved, h.epoch, h.impaired, h.allowance, h.reserve⟩

end Books

/-! ### Steps and runs -/

namespace Pool

variable {m : Msg} {p p' : Pool} {call : PoolCall} {rest : List PoolCall}

theorem execAll_cons (h : p.execAll m (call :: rest) = .ok p') :
    ∃ q, p.exec m call = .ok q ∧ q.execAll m rest = .ok p' :=
  bind_eq_ok.mp h

theorem execAll_single (h : p.execAll m [call] = .ok p') : p.exec m call = .ok p' := by
  obtain ⟨q, hq, hrest⟩ := execAll_cons h
  cases hrest
  exact hq

/-- The ledger holds no cash. -/
theorem Solvent.withLedger (hs : p.Solvent) (l : Ledger) : Solvent { p with ledger := l } :=
  ⟨hs.unapproved, hs.owned, hs.covered, hs.present, hs.received_word⟩

/-- A payer other than the vault brings the cash. -/
theorem arrives_from {payer : Address} {amount : Nat} (hne : payer ≠ p.vault.self)
    (h : p.exec m (.token (.transferFrom payer p.vault.self amount)) = .ok p') :
    ∃ token : Token Address, token.balanceOf p.vault.self = p.cashBalance + amount ∧
      TokenCall.exec m p.token (.transferFrom payer p.vault.self amount) = .ok token ∧
      p' = { p with token := token } := by
  obtain ⟨token, htoken, rfl⟩ := map_eq_ok.mp h
  refine ⟨token, ?_, htoken, rfl⟩
  simp only [TokenCall.exec] at htoken
  split at htoken
  · cases htoken
  · rename_i token' hfrom
    cases htoken
    obtain ⟨-, t₁, hbalance, -, -, hmove⟩ := Token.transferFrom_move hfrom
    rw [(Token.move_of_ne hmove hne).2.1, hbalance]
    rfl

theorem arrives {amount : Nat} (hne : m.sender ≠ p.vault.self)
    (h : p.exec m (.token (.transfer p.vault.self amount)) = .ok p') :
    ∃ token : Token Address, token.balanceOf p.vault.self = p.cashBalance + amount ∧
      TokenCall.exec m p.token (.transfer p.vault.self amount) = .ok token ∧
      p' = { p with token := token } := by
  obtain ⟨token, htoken, rfl⟩ := map_eq_ok.mp h
  refine ⟨token, ?_, htoken, rfl⟩
  simp only [TokenCall.exec] at htoken
  split at htoken
  · cases htoken
  · rename_i token' hmove
    cases htoken
    rw [(Token.move_of_ne hmove hne).2.1]
    rfl

end Pool

/-- The contracts and the book agree on their numbers, and the vault is solvent. -/
structure BookState.Matched (s : BookState) : Prop where
  word : s.now < wordSize 64
  books : Books s.now s.pool s.book
  solvent : s.pool.Solvent

theorem BookState.Initial.matched {s : BookState} (h : s.Initial) : s.Matched := by
  obtain ⟨hinit, hcash, hnow, hbook⟩ := h
  have hlosses : Pool.Losses s.now s.pool := PoolState.Initial.losses hinit
  have hsolvent : s.pool.Solvent := PoolState.Initial.solvent hinit
  obtain ⟨hledger, hvault, -⟩ := hinit
  dsimp only at hledger hvault
  refine ⟨hnow ▸ Nat.two_pow_pos 64,
    ⟨hlosses, ⟨?_, ?_, ?_, ?_⟩, ?_, ?_, ?_, ?_, ?_, ?_, ?_, ?_, ?_⟩, hsolvent⟩
  · rw [hbook, hledger]
    rfl
  · rw [hledger]
    intro id hid
    cases hid
  · rw [hledger]
    intro id
    exact ⟨Nat.zero_le _, Nat.two_pow_pos 32, Nat.two_pow_pos 64, Nat.zero_le _⟩
  · rw [hledger]
    intro id
    rfl
  · rw [hbook, hnow]
    rfl
  · rw [hbook]
    exact ⟨rfl, rfl⟩
  · rw [hbook, hvault]
    rfl
  · rw [hbook, hcash, hvault]
    rfl
  · rw [hvault]
    exact ⟨rfl, rfl⟩
  · rw [hvault]
    intro id hid
    cases hid
  · rw [hledger]
    intro id hid
    cases hid
  · rw [hbook, hvault]
    intro id
    rfl
  · rw [hbook]
    intro id
    rfl

/-- Every operation that both accept and that meets the condition keeps the agreement. -/
theorem RegularStep.matched {s s' : BookState} {a : Msg × BookOp} (h : s.Matched)
    (hstep : RegularStep s a s') : s'.Matched := by
  obtain ⟨m, op⟩ := a
  obtain ⟨⟨hlater, hword, hext, hadm, hpool, hbook, hnow⟩, hregular⟩ := hstep
  obtain ⟨now, p, v⟩ := s
  obtain ⟨now', p', v'⟩ := s'
  dsimp only at *
  subst hnow
  obtain ⟨v₁, hv₁, hop⟩ := bind_eq_ok.mp hbook
  have hb := h.books.tick hlater hv₁
  have hs := h.solvent
  cases op with
  | wait =>
    cases hpool
    cases hop
    exact ⟨hword, hb, hs⟩
  | configure call =>
    have hexec := Pool.execAll_single hpool
    cases hop
    refine ⟨hword, hb.configure hadm hexec, ?_⟩
    have hpoolStep : PoolStep ⟨now, p⟩ (m, call) ⟨m.now, p'⟩ := ⟨hlater, hext, hexec, rfl⟩
    exact hpoolStep.solvent hs
  | openFacility id terms =>
    obtain ⟨l, hl, rfl⟩ := map_eq_ok.mp (Pool.execAll_single hpool)
    cases hop
    exact ⟨hword, hb.openFacility hword hadm.1 hadm.2 hl, hs.withLedger l⟩
  | deposit assets minShares =>
    have hexec := Pool.execAll_single hpool
    obtain ⟨⟨shares, q⟩, hp, rfl⟩ := map_eq_ok.mp hexec
    obtain ⟨⟨x, w⟩, hv, rfl⟩ := map_eq_ok.mp hop
    exact ⟨hword, hb.deposit hs hword hp hv, VaultCall.exec_solvent (c := .deposit assets minShares) hs hexec⟩
  | withdraw shares minAssets =>
    have hexec := Pool.execAll_single hpool
    obtain ⟨⟨assets, q⟩, hp, rfl⟩ := map_eq_ok.mp hexec
    obtain ⟨⟨x, w⟩, hv, rfl⟩ := map_eq_ok.mp hop
    exact ⟨hword, hb.withdraw hs hword hp hv,
      VaultCall.exec_solvent (c := .withdraw shares minAssets) hs hexec⟩
  | donate assets =>
    obtain ⟨token, htoken, hexec, rfl⟩ := Pool.arrives hext (Pool.execAll_single hpool)
    cases hop
    exact ⟨hword, hb.receive htoken, TokenCall.exec_solvent hs hext hexec⟩
  | draw id dst amount =>
    obtain ⟨q, hq, hrest⟩ := Pool.execAll_cons hpool
    obtain ⟨l, hl, rfl⟩ := map_eq_ok.mp hq
    have hlend := Pool.execAll_single hrest
    exact ⟨hword, hb.draw hword hl hlend hop,
      VaultCall.exec_solvent (c := .lend id dst amount) (hs.withLedger l) hlend⟩
  | repay payer id amount =>
    obtain ⟨q, hq, hrest⟩ := Pool.execAll_cons hpool
    obtain ⟨token, htoken, hexec, rfl⟩ := Pool.arrives_from hadm hq
    obtain ⟨⟨r, q⟩, hp, rfl⟩ := map_eq_ok.mp (Pool.execAll_single hrest)
    obtain ⟨⟨alloc, w⟩, hv, rfl⟩ := map_eq_ok.mp hop
    have hs₁ := TokenCall.exec_solvent hs hext hexec
    obtain ⟨split, l, -, -, hrepay⟩ := Pool.repay_ok hp
    exact ⟨hword, (hb.receive htoken).repay hword hregular hp hv,
      VaultCall.exec_solvent (c := .onRepayment id r) (hs₁.withLedger l) hrepay⟩
  | impair id amount =>
    have hexec := Pool.execAll_single hpool
    exact ⟨hword, hb.impair hexec hop,
      VaultCall.exec_solvent (c := .recognizeImpairment id amount) hs hexec⟩
  | writeOff id =>
    obtain ⟨q, hq, hrest⟩ := Pool.execAll_cons hpool
    obtain ⟨l, hl, rfl⟩ := map_eq_ok.mp hq
    have hoff := Pool.execAll_single hrest
    exact ⟨hword, hb.writeOff hword hl hoff hop,
      VaultCall.exec_solvent (c := .writeOff id) (hs.withLedger l) hoff⟩
  | recover payer id amount =>
    obtain ⟨q, hq, hrest⟩ := Pool.execAll_cons hpool
    obtain ⟨token, htoken, hexec, rfl⟩ := Pool.arrives_from hadm hq
    obtain ⟨q, hq, hrest⟩ := Pool.execAll_cons hrest
    obtain ⟨l, hl, rfl⟩ := map_eq_ok.mp hq
    obtain ⟨⟨r, l'⟩, hallocate, rfl⟩ := map_eq_ok.mp hl
    have hrecord := Pool.execAll_single hrest
    obtain ⟨⟨alloc, w⟩, hv, rfl⟩ := map_eq_ok.mp hop
    have hs₁ := TokenCall.exec_solvent hs hext hexec
    exact ⟨hword, (hb.receive htoken).recover hword hregular hallocate hrecord hv,
      VaultCall.exec_solvent (c := .recordRecovery id amount) (hs₁.withLedger l') hrecord⟩

/-- The NAV and both conversions of the vault agree with the reference book, in every state of every
run whose operations meet the condition: each repayment leaves at least the impairment of its
facility, and each recovery is at most the debt. The book returns a number, and the vault returns
that number and no other one, unless a word overflows. -/
theorem vault_matches_reference {s : BookState}
    (h : Reachable BookState.Initial RegularStep s) :
    Agrees (s.pool.nav s.now) s.book.nav (fun _ => s.pool.Fits s.now) ∧
    (∀ assets : Nat, Agrees (s.pool.convertToShares s.now assets) (s.book.convertToShares assets)
      fun shares => s.pool.Fits s.now ∧ shares < wordSize 256) ∧
    ∀ shares : Nat, Agrees (s.pool.convertToAssets s.now shares) (s.book.convertToAssets shares)
      fun assets => s.pool.Fits s.now ∧ assets < wordSize 256 := by
  have hmatched : s.Matched :=
    Reachable.invariant (fun _ hinit => hinit.matched) (fun _ _ _ hs hstep => hstep.matched hs) h
  exact ⟨hmatched.books.nav_agrees hmatched.solvent hmatched.word,
    hmatched.books.convertToShares_agrees hmatched.solvent hmatched.word,
    hmatched.books.convertToAssets_agrees hmatched.solvent hmatched.word⟩

/-! ### Runs to evaluate -/

/-- Run a list of operations that pass `check`. -/
def BookState.run (check : BookState → Msg × BookOp → Bool) (s : BookState) :
    List (Msg × BookOp) → Option BookState
  | [] => some s
  | (m, op) :: rest =>
    if s.now ≤ m.now ∧ m.now < wordSize 64 ∧ m.sender ≠ s.pool.vault.self ∧
        op.Admissible s.pool.vault.self ∧ check s (m, op) = true then do
      let p ← (s.pool.execAll m (op.calls s.pool.vault.self)).toOption
      let v ← (do
        let v ← s.book.tick m.now
        op.onBook m v).toOption
      run check { now := m.now, pool := p, book := v } rest
    else none

theorem BookState.run_steps {check : BookState → Msg × BookOp → Bool}
    {as : List (Msg × BookOp)} {s s' : BookState} (h : s.run check as = some s') :
    Steps (fun s a s' => BookStep s a s' ∧ check s a = true) s as s' := by
  induction as generalizing s with
  | nil =>
    cases h
    exact .nil _
  | cons head rest ih =>
    obtain ⟨m, op⟩ := head
    unfold run at h
    split at h
    · rename_i hc
      obtain ⟨hlater, hword, hext, hadm, hcheck⟩ := hc
      simp only [Option.bind_eq_bind, Option.bind_eq_some_iff] at h
      obtain ⟨p, hp, v, hv, h⟩ := h
      exact .cons ⟨⟨hlater, hword, hext, hadm, toOption_eq_some.mp hp, toOption_eq_some.mp hv, rfl⟩,
        hcheck⟩ (ih h)
    · cases h

/-- The vault at address 1 and a new book. -/
def Sample.bookDeployment : BookState where
  now := 0
  pool := Sample.deployment.pool
  book := .new

theorem Sample.bookDeployment_initial : Sample.bookDeployment.Initial :=
  ⟨Sample.deployment_initial, rfl, rfl, rfl⟩

/-- Account 7 manages the vault and pays for facility 5, which draws 600 out of 1000 at time 10. -/
def Sample.drawnBook : List (Msg × BookOp) :=
  [(Sample.msg 7 10, .configure (.ledger (.setWriter 7 true))),
    (Sample.msg 7 10, .configure (.vault (.setManager 7 true))),
    (Sample.msg 7 10, .configure (.token (.approve 7 1000000))),
    (Sample.msg 8 10, .deposit 1000 0), (Sample.msg 7 10, .openFacility 5 Sample.terms),
    (Sample.msg 7 10, .draw 5 7 600)]

/-- A day of interest on a facility that is impaired, repaid in part, written off and recovered in
part. -/
def Sample.recoveredBook : List (Msg × BookOp) :=
  Sample.drawnBook ++
    [(Sample.msg 7 20, .impair 5 100), (Sample.msg 7 86410, .repay 7 5 200),
      (Sample.msg 9 86410, .deposit 300 0), (Sample.msg 8 86420, .withdraw 50000 0),
      (Sample.msg 9 86420, .donate 25), (Sample.msg 7 86420, .writeOff 5),
      (Sample.msg 7 86430, .recover 7 5 150), (Sample.msg 9 172800, .wait)]

theorem vault_matches_reference_sample :
    ∃ s, Reachable BookState.Initial RegularStep s ∧ s.pool.nav s.now = .ok 1030 ∧
      Agrees (s.pool.nav s.now) s.book.nav (fun _ => s.pool.Fits s.now) := by
  have hview : ((Sample.bookDeployment.run (fun s a => decide (a.2.Regular a.1.now s.pool))
      Sample.recoveredBook).map fun s => (s.pool.nav s.now).toOption) = some (some 1030) := by
    decide +kernel
  obtain ⟨s, hrun, hview⟩ := Option.map_eq_some_iff.mp hview
  have hreach : Reachable BookState.Initial RegularStep s :=
    ⟨_, _, Sample.bookDeployment_initial, (BookState.run_steps hrun).mono fun _ _ _ h =>
      ⟨h.1, of_decide_eq_true h.2⟩⟩
  exact ⟨s, hreach, toOption_eq_some.mp hview, (vault_matches_reference hreach).1⟩

/-- An impairment of 600 and a repayment of 500: the vault caps the impairment by the debt of 100
that is left, the book deducts 600. -/
theorem repaid_impairment_kept :
    ∃ s, Reachable BookState.Initial BookStep s ∧ s.pool.nav s.now = .ok 900 ∧
      s.book.nav = .ok 400 ∧
      ¬Agrees (s.pool.nav s.now) s.book.nav (fun _ => s.pool.Fits s.now) := by
  have hview : ((Sample.bookDeployment.run (fun _ _ => true)
      (Sample.drawnBook ++ [(Sample.msg 7 10, .impair 5 600), (Sample.msg 7 10, .repay 7 5 500)])).map
        fun s => ((s.pool.nav s.now).toOption, s.book.nav.toOption)) = some (some 900, some 400) := by
    decide +kernel
  obtain ⟨s, hrun, hview⟩ := Option.map_eq_some_iff.mp hview
  simp only [Prod.mk.injEq, toOption_eq_some] at hview
  obtain ⟨hnav, hbook⟩ := hview
  refine ⟨s, ⟨_, _, Sample.bookDeployment_initial, (BookState.run_steps hrun).mono fun _ _ _ h => h.1⟩,
    hnav, hbook, ?_⟩
  rintro ⟨n, hn, honly, -⟩
  have h400 : (n : Int) = 400 := by
    rw [hbook] at hn
    exact (Except.ok.inj hn).symm
  have h900 := honly 900 hnav
  omega

end Rackline
