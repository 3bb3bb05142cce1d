import Rackline.Proofs.Release
import Rackline.SweepLogs

/-!
# `Rackline.Proofs.Waterfall`: the waterfall of the controlled account

`SweepEffect` says what a sweep does: the four tranches add up to the payout and go where the
waterfall says, the reserve grows up to its target, and the facilities are paid by seniority. No
other call touches what was swept, and no other call fills the reserve.

`Covered` is the invariant of the balances: of every token the account has what its two buckets say.
Inside a claim the balance of the start of the claim still covers them, so what the claim brought in
is on top.
-/

set_option autoImplicit false

namespace Rackline

open Evm Transition SourceEscrow SourceChain

namespace Custody

variable {env : RevenueEnv} {c c' : Custody}

/-! ### Movements of tokens -/

/-- The balance of anyone. -/
def balance (c : Custody) (token a : Address) : Nat := (c.chain.tokens token).balanceOf a

/-- `amount` when the two addresses are the same. -/
def share (a b : Address) (amount : Nat) : Nat := if a = b then amount else 0

theorem share_add (a b : Address) (m n : Nat) : share a b (m + n) = share a b m + share a b n := by
  unfold share
  split <;> omega

theorem share_zero (a b : Address) : share a b 0 = 0 := by
  unfold share
  split <;> rfl

theorem share_of_ne {a b : Address} (h : a ≠ b) (n : Nat) : share a b n = 0 := if_neg h

theorem share_self (a : Address) (n : Nat) : share a a n = n := if_pos rfl

/-- The same up to a movement of one token from the account. -/
structure Sent (token : Address) (gain : Address → Nat) (spent : Nat) (c c' : Custody) : Prop where
  escrow : c'.chain.escrow = c.chain.escrow
  other : ∀ t, t ≠ token → c'.chain.tokens t = c.chain.tokens t
  balance : ∀ a, c'.balance token a + share a c.revenue.self spent = c.balance token a + gain a

/-- A push is a movement of the token, and nothing else changes. -/
theorem push_sent {token dst : Address} {amount : Nat} (h : c.push token dst amount = .ok c') :
    Sent token (fun a => share a dst amount) amount c c' ∧ c'.revenue = c.revenue := by
  unfold push at h
  split at h
  · cases h
  · rename_i t ht
    cases h
    refine ⟨⟨rfl, fun t' ht' => Function.update_of_ne ht' .., fun a => ?_⟩, rfl⟩
    show (Function.update c.chain.tokens token t token).balanceOf a + _ = _
    rw [Function.update_self]
    exact Token.move_balance_add ht a

theorem Sent.refl (token : Address) (c : Custody) : Sent token (fun _ => 0) 0 c c :=
  ⟨rfl, fun _ _ => rfl, fun a => by rw [share_zero]⟩

theorem Sent.trans {token : Address} {gain₁ gain₂ : Address → Nat} {m n : Nat} {c₁ c₂ c₃ : Custody}
    (h : Sent token gain₁ m c₁ c₂) (hself : c₂.revenue.self = c₁.revenue.self)
    (h' : Sent token gain₂ n c₂ c₃) : Sent token (fun a => gain₁ a + gain₂ a) (m + n) c₁ c₃ := by
  refine ⟨h'.escrow.trans h.escrow, fun t ht => (h'.other t ht).trans (h.other t ht), fun a => ?_⟩
  have hfirst := h.balance a
  have hsecond := h'.balance a
  rw [hself] at hsecond
  rw [share_add]
  omega

/-! ### The tranches -/

theorem payOperating_ok {w : Waterfall} {amount remaining : Nat}
    (h : c.payOperating w amount = .ok (remaining, c')) :
    remaining + w.operatingPart amount = amount ∧ c'.revenue = c.revenue ∧
      Sent w.token (fun a => share a w.operatingRecipient (w.operatingPart amount))
        (w.operatingPart amount) c c' := by
  obtain ⟨product, hproduct, h⟩ := bind_eq_ok.mp h
  obtain ⟨-, rfl⟩ := mulW_eq_ok.mp hproduct
  -- The allowance is pushed, or it is nothing.
  have hpaid : ∀ {operating : Nat}, (if operating > 0 then do
        let remaining ← subW amount operating
        let c ← c.push w.token w.operatingRecipient operating
        return (remaining, c)
      else return (amount, c)) = Except.ok (remaining, c') →
      remaining + operating = amount ∧ c'.revenue = c.revenue ∧
        Sent w.token (fun a => share a w.operatingRecipient operating) operating c c' := by
    intro operating h
    split at h
    · obtain ⟨rest, hrest, h⟩ := bind_eq_ok.mp h
      obtain ⟨c₁, hpush, h⟩ := bind_eq_ok.mp h
      obtain ⟨hle, rfl⟩ := subW_eq_ok.mp hrest
      cases pure_eq_ok.mp h
      obtain ⟨hsent, hsame⟩ := push_sent hpush
      exact ⟨Nat.sub_add_cancel hle, hsame, hsent⟩
    · rename_i hzero
      obtain rfl : operating = 0 := by omega
      cases pure_eq_ok.mp h
      refine ⟨rfl, rfl, ?_⟩
      simp only [share_zero]
      exact .refl w.token c
  exact hpaid h

theorem fillReserve_eq (w : Waterfall) (remaining : Nat) (c : Custody) :
    c.fillReserve w remaining =
      (remaining - w.reservePart (c.revenue.reserveBalance w.token) remaining,
        { c with revenue := { c.revenue with
          reserveBalance := Function.update c.revenue.reserveBalance w.token
            (c.revenue.reserveBalance w.token +
              w.reservePart (c.revenue.reserveBalance w.token) remaining) } }) := by
  unfold fillReserve Waterfall.reservePart
  dsimp only
  split
  · rfl
  · rw [Nat.add_zero, Function.update_eq_self]
    rfl

theorem reservePart_le (w : Waterfall) (held remaining : Nat) :
    w.reservePart held remaining ≤ remaining := by
  unfold Waterfall.reservePart
  dsimp only
  split
  · split <;> omega
  · exact Nat.zero_le _

/-- A reserve that grows stays within its target. -/
theorem reservePart_within {w : Waterfall} {held remaining : Nat}
    (h : w.reservePart held remaining ≠ 0) :
    held + w.reservePart held remaining ≤ w.reserveTarget := by
  unfold Waterfall.reservePart at h ⊢
  dsimp only at h ⊢
  split
  · split <;> omega
  · rename_i hnot
    exact absurd (if_neg hnot) h

/-- The debt sweep makes the payments by seniority, each to the settlement leg. -/
theorem sweepDebt_ok {token settlementLeg : Address} {fs : List FacilityAllocation} :
    ∀ {remaining left : Nat} {c c' : Custody},
      sweepDebt token settlementLeg fs remaining c = .ok (left, c') →
      left = remaining - Seniority.total
          (Seniority.pays (fs.map (·.toClaim)) remaining c.revenue.sweptToFacility) ∧
      c'.revenue = { c.revenue with
        sweptToFacility := fun f => c.revenue.sweptToFacility f + Seniority.paidTo f
          (Seniority.pays (fs.map (·.toClaim)) remaining c.revenue.sweptToFacility) } ∧
      Sent token (fun a => share a settlementLeg (Seniority.total
          (Seniority.pays (fs.map (·.toClaim)) remaining c.revenue.sweptToFacility)))
        (Seniority.total
          (Seniority.pays (fs.map (·.toClaim)) remaining c.revenue.sweptToFacility)) c c' := by
  have hnothing : ∀ (remaining : Nat) (c : Custody),
      remaining = remaining - Seniority.total ([] : List (FacilityId × Nat)) ∧
      c.revenue = { c.revenue with
        sweptToFacility := fun f => c.revenue.sweptToFacility f + Seniority.paidTo f [] } ∧
      Sent token (fun a => share a settlementLeg (Seniority.total ([] : List (FacilityId × Nat))))
        (Seniority.total ([] : List (FacilityId × Nat))) c c := by
    intro remaining c
    refine ⟨rfl, rfl, ?_⟩
    show Sent token (fun a => share a settlementLeg 0) 0 c c
    simp only [share_zero]
    exact .refl token c
  induction fs with
  | nil =>
    intro remaining left c c' h
    cases h
    exact hnothing remaining c
  | cons f rest ih =>
    intro remaining left c c' h
    simp only [sweepDebt] at h
    rw [List.map_cons, Seniority.pays]
    split at h
    · rename_i hzero
      cases h
      rw [if_pos hzero]
      exact hnothing remaining c
    rename_i hsome
    rw [if_neg hsome]
    split at h
    · rename_i hreached
      have hreached' : c.revenue.sweptToFacility f.toClaim.key ≥ f.toClaim.target := hreached
      rw [if_pos hreached']
      exact ih h
    · rename_i hlt
      have hlt' : ¬c.revenue.sweptToFacility f.toClaim.key ≥ f.toClaim.target := hlt
      rw [if_neg hlt']
      obtain ⟨c₁, hpush, hrest⟩ := bind_eq_ok.mp h
      obtain ⟨hsent, hsame⟩ := push_sent hpush
      obtain ⟨hleft, hrevenue, hsent'⟩ := ih hrest
      rw [hsame] at hleft hrevenue hsent'
      dsimp only at hleft hrevenue hsent' ⊢
      simp only [Seniority.total_cons, Seniority.paidTo_cons]
      refine ⟨?_, ?_, ?_⟩
      · rw [hleft]
        exact Nat.sub_sub ..
      · rw [hrevenue]
        congr 1
        funext f'
        rw [← Nat.add_assoc]
        congr 1
        by_cases hf : f' = f.facilityId
        · subst hf
          rw [Function.update_self]
          exact congrArg _ (if_pos rfl).symm
        · rw [Function.update_of_ne hf]
          have hkey : f.toClaim.key ≠ f' := Ne.symm hf
          rw [if_neg hkey, Nat.add_zero]
      · have hall := Sent.trans hsent (by rw [hsame]) hsent'
        simp only [← share_add] at hall
        exact ⟨hall.escrow, hall.other, hall.balance⟩

/-- What a sweep pays to anyone. -/
def gain (w : Waterfall) (T : Tranches) (a : Address) : Nat :=
  share a w.operatingRecipient T.operating + share a w.settlementLeg T.debt +
    share a w.residualRecipient T.residual

/-- The four tranches of an amount add up to it, go where the waterfall says and are booked. -/
theorem distribute_ok {w : Waterfall} {amount : Nat} (h : c.distribute w amount = .ok c') :
    (c.tranches w amount).operating + (c.tranches w amount).reserve + (c.tranches w amount).debt +
      (c.tranches w amount).residual = amount ∧
    c'.revenue = { c.revenue with
      reserveBalance := Function.update c.revenue.reserveBalance w.token
        (c.revenue.reserveBalance w.token + (c.tranches w amount).reserve)
      sweptToFacility := fun f =>
        c.revenue.sweptToFacility f + Seniority.paidTo f (c.debtPays w amount) } ∧
    Sent w.token (gain w (c.tranches w amount)) ((c.tranches w amount).operating +
      (c.tranches w amount).debt + (c.tranches w amount).residual) c c' := by
  obtain ⟨⟨remaining, c₁⟩, hoperating, h⟩ := bind_eq_ok.mp h
  obtain ⟨hremaining, hsame, hsent⟩ := payOperating_ok hoperating
  dsimp only at h
  rw [fillReserve_eq, hsame] at h
  obtain rfl : remaining = amount - w.operatingPart amount := by omega
  obtain ⟨⟨residual, c₂⟩, hdebt, h⟩ := bind_eq_ok.mp h
  obtain ⟨hresidual, hrevenue, hsent'⟩ := sweepDebt_ok hdebt
  -- The payments are those of the state before the sweep.
  have hpays : Seniority.pays (w.facilities.map (·.toClaim))
      (amount - w.operatingPart amount - w.reservePart (c.revenue.reserveBalance w.token)
        (amount - w.operatingPart amount)) c.revenue.sweptToFacility = c.debtPays w amount := rfl
  dsimp only at hresidual hrevenue hsent'
  rw [hpays] at hresidual hrevenue hsent'
  have hresidual' : residual = (c.tranches w amount).residual := hresidual
  have hdebtle := Seniority.total_pays_le (w.facilities.map (·.toClaim)) (c.debtPart w amount)
    c.revenue.sweptToFacility
  have hreserve := reservePart_le w (c.revenue.reserveBalance w.token)
    (amount - w.operatingPart amount)
  have hsum : (c.tranches w amount).operating + (c.tranches w amount).reserve +
      (c.tranches w amount).debt + (c.tranches w amount).residual = amount := by
    show w.operatingPart amount + w.reservePart _ _ + Seniority.total (c.debtPays w amount) +
      (c.debtPart w amount - Seniority.total (c.debtPays w amount)) = amount
    have hleft : c.debtPart w amount = amount - w.operatingPart amount -
        w.reservePart (c.revenue.reserveBalance w.token) (amount - w.operatingPart amount) := rfl
    have htotal : Seniority.total (c.debtPays w amount) ≤ c.debtPart w amount := hdebtle
    omega
  -- The reserve moves no token, so the two movements are one.
  have hfirst : Sent w.token (fun a => share a w.operatingRecipient (c.tranches w amount).operating)
      (c.tranches w amount).operating c { c₁ with revenue := { c.revenue with
        reserveBalance := Function.update c.revenue.reserveBalance w.token
          (c.revenue.reserveBalance w.token + (c.tranches w amount).reserve) } } :=
    ⟨hsent.escrow, hsent.other, hsent.balance⟩
  have hboth : Sent w.token (fun a => share a w.operatingRecipient (c.tranches w amount).operating +
        share a w.settlementLeg (c.tranches w amount).debt)
      ((c.tranches w amount).operating + (c.tranches w amount).debt) c c₂ :=
    hfirst.trans rfl hsent'
  refine ⟨hsum, ?_⟩
  dsimp only at h
  rw [hresidual'] at h
  split at h
  · obtain ⟨hpushed, hkeep⟩ := push_sent h
    refine ⟨hkeep.trans hrevenue, ?_⟩
    have hall := Sent.trans hboth (by rw [hrevenue]) hpushed
    exact ⟨hall.escrow, hall.other, hall.balance⟩
  · rename_i hzero
    have hnone : (c.tranches w amount).residual = 0 := by omega
    cases pure_eq_ok.mp h
    refine ⟨hrevenue, hboth.escrow, hboth.other, fun a => ?_⟩
    have hbalance := hboth.balance a
    unfold gain
    rw [hnone, Nat.add_zero, share_zero, Nat.add_zero]
    exact hbalance

/-! ### The sweep -/

/-- What a withdrawal from the escrow does to the tokens. -/
theorem source_withdraw_tokens {token dst : Address} {amount : Nat}
    (h : c.source env (.withdraw token dst amount) = .ok c') :
    c'.chain.escrow.self = c.chain.escrow.self ∧ c'.revenue = c.revenue ∧
      (∀ t, t ≠ token → c'.chain.tokens t = c.chain.tokens t) ∧
      ∀ a, c'.balance token a + share a c.chain.escrow.self amount =
        c.balance token a + share a dst amount := by
  obtain ⟨hrequest, hsame⟩ := source_ok h
  obtain ⟨⟨events, hcall⟩, htokens⟩ := request_ok hrequest
  obtain ⟨e, hok, heq⟩ := map_eq_ok.mp hcall
  cases heq
  obtain ⟨-, hpushed, -, hresult⟩ := withdraw_ok hok
  obtain ⟨w₁, hpush⟩ := Option.isSome_iff_exists.mp hpushed
  obtain ⟨t, ht, rfl⟩ := Option.map_eq_some_iff.mp hpush
  have htokens' : c'.chain.tokens = Function.update c.chain.tokens token t := by
    rw [htokens]
    show ((c.chain.push token dst amount).map (·.tokens)).getD c.chain.tokens = _
    rw [hpush]
    rfl
  refine ⟨by rw [hresult], by rw [hsame], fun t' ht' => ?_, fun a => ?_⟩
  · rw [htokens', Function.update_of_ne ht']
  · show (c'.chain.tokens token).balanceOf a + _ = _
    rw [htokens', Function.update_self]
    exact Token.move_balance_add ht a

/-- The pull of a sweep brings exactly the payout from the escrow. -/
theorem pullFromSource_sent {token : Address} {amount measured : Nat}
    (h : c.pullFromSource env token amount = .ok (measured, c')) :
    measured = amount ∧ c'.chain.escrow.self = c.chain.escrow.self ∧
      (∃ shadow, c'.revenue = { c.revenue with unattributedShadow := shadow }) ∧
      (∀ t, t ≠ token → c'.chain.tokens t = c.chain.tokens t) ∧
      ∀ a, c'.balance token a + share a c.chain.escrow.self amount =
        c.balance token a + share a c.revenue.self amount := by
  simp only [pullFromSource, bind_eq_ok, revertIf_eq_ok, subW_eq_ok, exists_const] at h
  obtain ⟨c₁, hwithdraw, _, ⟨-, rfl⟩, hmeasured, _, ⟨hle, rfl⟩, shadow, hshadow, h⟩ := h
  obtain ⟨hself, hrevenue, hother, hbalance⟩ := source_withdraw_tokens hwithdraw
  obtain ⟨rfl, rfl⟩ := Prod.mk.injEq .. ▸ pure_eq_ok.mp h
  exact ⟨Classical.not_not.mp hmeasured, hself, ⟨_, by rw [hrevenue]⟩, hother, hbalance⟩

/-- What a sweep of the payout `seq` does under the waterfall `w`. -/
structure SweepEffect (env : RevenueEnv) (w : Waterfall) (seq : Nat) (c c' : Custody) : Prop where
  waterfall : c.currentWaterfall env = .ok w
  fresh : c.revenue.isSwept seq = false
  lock : c.revenue.lock = none
  sum : (c.tranches w (c.chain.escrow.payouts seq).amount).operating +
    (c.tranches w (c.chain.escrow.payouts seq).amount).reserve +
    (c.tranches w (c.chain.escrow.payouts seq).amount).debt +
    (c.tranches w (c.chain.escrow.payouts seq).amount).residual =
      (c.chain.escrow.payouts seq).amount
  revenue : ∃ shadow sweepCount, c'.revenue = { c.revenue with
    isSwept := Function.update c.revenue.isSwept seq true
    unattributedShadow := shadow
    sweepCount := sweepCount
    reserveBalance := Function.update c.revenue.reserveBalance w.token
      (c.revenue.reserveBalance w.token +
        (c.tranches w (c.chain.escrow.payouts seq).amount).reserve)
    sweptToFacility := fun f => c.revenue.sweptToFacility f +
      Seniority.paidTo f (c.debtPays w (c.chain.escrow.payouts seq).amount) }
  source : c'.chain.escrow.self = c.chain.escrow.self
  other : ∀ t, t ≠ w.token → c'.chain.tokens t = c.chain.tokens t
  balance : ∀ a, c'.balance w.token a +
      share a c.revenue.self ((c.tranches w (c.chain.escrow.payouts seq).amount).operating +
        (c.tranches w (c.chain.escrow.payouts seq).amount).debt +
        (c.tranches w (c.chain.escrow.payouts seq).amount).residual) +
      share a c.chain.escrow.self (c.chain.escrow.payouts seq).amount =
    c.balance w.token a + share a c.revenue.self (c.chain.escrow.payouts seq).amount +
      gain w (c.tranches w (c.chain.escrow.payouts seq).amount) a

theorem lock_eq_none {u : Unit} (h : c.nonReentrant = .ok u) : c.revenue.lock = none := by
  have hfree := revertIf_eq_ok.mp h
  cases hlock : c.revenue.lock with
  | none => rfl
  | some l =>
    rw [hlock] at hfree
    exact absurd rfl hfree

theorem sweep_ok {seq : Nat} (h : c.sweep env seq = .ok c') :
    ∃ w, SweepEffect env w seq c c' := by
  simp only [sweep, bind_eq_ok, pure_eq_ok] at h
  obtain ⟨_, -, _, -, _, hlock, _, hfresh, _, -, _, -, _, -, w, hw, _, -, _, -, ⟨amount, c₁⟩, hpull,
    c₂, hdistribute, count, -, rfl⟩ := h
  obtain ⟨hamount, hself, ⟨shadow, hrevenue⟩, hother, hbalance⟩ := pullFromSource_sent hpull
  dsimp only at hdistribute hamount
  subst hamount
  obtain ⟨hsum, hrevenue₂, hsent⟩ := distribute_ok hdistribute
  -- The tranches read storage that the pull leaves alone.
  have htranches : c₁.tranches w (c.chain.escrow.payouts seq).amount =
      c.tranches w (c.chain.escrow.payouts seq).amount := by
    unfold tranches debtPays debtPart
    rw [hrevenue]
  have hpays : c₁.debtPays w (c.chain.escrow.payouts seq).amount =
      c.debtPays w (c.chain.escrow.payouts seq).amount := by
    unfold debtPays debtPart
    rw [hrevenue]
  rw [htranches] at hsum hrevenue₂ hsent
  rw [hpays] at hrevenue₂
  refine ⟨w, hw, ?_, lock_eq_none hlock, hsum, ⟨shadow, count, ?_⟩, ?_, fun t ht => ?_, fun a => ?_⟩
  · simpa using revertIf_eq_ok.mp hfresh
  · show { c₂.revenue with sweepCount := count } = _
    rw [hrevenue₂, hrevenue]
  · show c₂.chain.escrow.self = _
    rw [hsent.escrow]
    exact hself
  · exact (hsent.other t ht).trans (hother t ht)
  · have hpulled := hbalance a
    have hpaid := hsent.balance a
    rw [hrevenue] at hpaid
    dsimp only at hpulled hpaid
    show c₂.balance w.token a + _ + _ = _
    have hpulled' : c₁.balance w.token a + share a c.chain.escrow.self
          (c.chain.escrow.payouts seq).amount =
        c.balance w.token a + share a c.revenue.self (c.chain.escrow.payouts seq).amount := hpulled
    omega

/-! ### Calls from outside -/

/-- A request takes tokens only from its sender and from the escrow. -/
theorem request_balance_le {m : SourceMsg} {w w' : SourceChain} {r : SourceRequest} {a : Address}
    (h : w.request m r = .ok w') (ha : a ≠ w.escrow.self) (hs : a ≠ m.sender) (t : Address) :
    (w.tokens t).balanceOf a ≤ (w'.tokens t).balanceOf a := by
  obtain ⟨-, htokens⟩ := request_ok h
  rw [htokens]
  have hset : ∀ {token : Address} {t' : Token Address},
      (w.tokens token).balanceOf a ≤ t'.balanceOf a →
      (w.tokens t).balanceOf a ≤ ((w.setToken token t').tokens t).balanceOf a := by
    intro token t' hle
    show _ ≤ (Function.update w.tokens token t' t).balanceOf a
    rw [Function.update_apply]
    split
    · rename_i heq
      rw [heq]
      exact hle
    · exact Nat.le_refl _
  have hpull : ∀ (token : Address) (amount : Nat), (w.tokens t).balanceOf a ≤
      ((((w.pull token m.sender amount).map (·.2.tokens)).getD w.tokens) t).balanceOf a := by
    intro token amount
    unfold SourceChain.pull
    cases ht : (w.tokens token).transferFrom w.escrow.self m.sender w.escrow.self amount with
    | none => exact Nat.le_refl _
    | some t' => exact hset (Token.transferFrom_other ht hs ha).ge
  have hpush : ∀ (token dst : Address) (amount : Nat), (w.tokens t).balanceOf a ≤
      ((((w.push token dst amount).map (·.tokens)).getD w.tokens) t).balanceOf a := by
    intro token dst amount
    unfold SourceChain.push
    cases ht : (w.tokens token).transfer w.escrow.self dst amount with
    | none => exact Nat.le_refl _
    | some t' => exact hset (Token.move_balance_le ht a ha)
  cases r with
  | settle k ref token amount settlementId => exact hpull token amount
  | cancelPayout seq => exact hpush _ _ _
  | depositUnattributed token amount => exact hpull token amount
  | recordDirectDeposit token => exact Nat.le_refl _
  | withdraw token dst amount => exact hpush token dst amount
  | tokenless call => exact Nat.le_refl _

/-- A call of a token takes nothing from an account that has not approved the sender. -/
theorem tokenCall_balance_le {sender token : Address} {w w' : SourceChain} {call : TokenCall}
    {a : Address} (h : w.tokenCall sender token call = .ok w') (hs : a ≠ sender)
    (hallow : (w.tokens token).allowance a sender = 0) (t : Address) :
    (w.tokens t).balanceOf a ≤ (w'.tokens t).balanceOf a := by
  have hset : ∃ t', w' = w.setToken token t' ∧
      (w.tokens token).balanceOf a ≤ t'.balanceOf a := by
    unfold SourceChain.tokenCall at h
    cases call with
    | transfer dst amount =>
      dsimp only at h
      split at h
      · cases h
      · rename_i t' ht
        cases h
        exact ⟨t', rfl, Token.move_balance_le ht a hs⟩
    | approve spender amount =>
      cases h
      exact ⟨_, rfl, Nat.le_refl _⟩
    | transferFrom src dst amount =>
      dsimp only at h
      split at h
      · cases h
      · rename_i t' ht
        cases h
        refine ⟨t', rfl, ?_⟩
        obtain ⟨hle, t₁, hbal, -, -, hmove⟩ := Token.transferFrom_move ht
        rw [← hbal]
        by_cases hsrc : a = src
        · -- The sender may spend nothing of the account.
          subst hsrc
          obtain rfl : amount = 0 := by omega
          have hadd := Token.move_balance_add hmove a
          simp only [ite_self, Nat.add_zero] at hadd
          exact hadd.ge
        · exact Token.move_balance_le hmove a hsrc
  obtain ⟨t', rfl, hle⟩ := hset
  show _ ≤ (Function.update w.tokens token t' t).balanceOf a
  rw [Function.update_apply]
  split
  · rename_i heq
    rw [heq]
    exact hle
  · exact Nat.le_refl _

/-- What others do leaves the account its storage and the escrow its address. -/
theorem outside_ok {call : ChainCall} (h : c.call env (.outside call) = .ok c') :
    c.chain.call ⟨env.msg.sender, env.msg.now⟩ call = .ok c'.chain ∧ c'.revenue = c.revenue ∧
      c'.chain.escrow.self = c.chain.escrow.self := by
  unfold Custody.call at h
  dsimp only at h
  split at h
  · cases h
  · rename_i chain hchain
    cases h
    refine ⟨hchain, rfl, ?_⟩
    cases call with
    | escrow r => exact (request_effect hchain).2.1
    | token token call =>
      unfold SourceChain.call SourceChain.tokenCall at hchain
      dsimp only at hchain
      split at hchain
      · cases hchain
      · cases hchain
        rfl

/-- No call from outside takes tokens of the account, as long as claims take none. -/
theorem outside_held_le {tx : CustodyTx} {call : ChainCall} (hcall : tx.2 = .outside call)
    (hdistinct : c.revenue.self ≠ c.chain.escrow.self) (hstep : ClaimingStep c tx c')
    (hspare : ClaimsSpare c tx c') (token : Address) : c.held token ≤ c'.held token := by
  obtain ⟨env, call'⟩ := tx
  obtain rfl : call' = .outside call := hcall
  obtain ⟨hmay, h⟩ := hstep
  obtain ⟨hchain, hsame, -⟩ := outside_ok h
  by_cases hclaim : env.msg.sender = c.revenue.self ∨ ¬c.Guarded
  · exact hspare call rfl hclaim token
  · obtain ⟨hsender, hguarded⟩ := not_or.mp hclaim
    have hguarded : c.Guarded := Classical.not_not.mp hguarded
    show c.balance token c.revenue.self ≤ c'.balance token c'.revenue.self
    rw [hsame]
    cases call with
    | escrow r => exact request_balance_le hchain hdistinct (Ne.symm hsender) token
    | token token' call' =>
      refine tokenCall_balance_le hchain (Ne.symm hsender) (hguarded token' _ ?_) token
      obtain hmay | hmay := hmay
      · exact hmay.2
      · exact absurd hmay.2.1 hsender

/-! ### The other calls -/

/-- A call that sweeps nothing: what was swept stays, no bucket of the reserve grows, and a
waterfall that is set stays. -/
structure Unswept (c c' : Custody) : Prop where
  self : c'.revenue.self = c.revenue.self
  source : c'.chain.escrow.self = c.chain.escrow.self
  isSwept : c'.revenue.isSwept = c.revenue.isSwept
  swept : c'.revenue.sweptToFacility = c.revenue.sweptToFacility
  reserve : ∀ t, c'.revenue.reserveBalance t ≤ c.revenue.reserveBalance t
  waterfalls : ∀ v w, c.revenue.waterfalls v = some w → c'.revenue.waterfalls v = some w

/-- A waterfall is set for a version that has none, and lists no facility twice. -/
theorem setWaterfall_ok {w : Waterfall} (h : c.setWaterfall env w = .ok c') :
    c.revenue.waterfalls (c.currentVersion env) = none ∧
      (w.facilities.map (·.facilityId)).Nodup ∧
      c' = { c with revenue := { c.revenue with
        waterfalls := Function.update c.revenue.waterfalls (c.currentVersion env) (some w) } } := by
  simp only [setWaterfall, bind_eq_ok, revertIf_eq_ok, pure_eq_ok, exists_const] at h
  obtain ⟨_, -, _, -, -, hfree, -, -, -, -, hnodup, -, rfl⟩ := h
  refine ⟨?_, Classical.not_not.mp hnodup, rfl⟩
  cases hw : c.revenue.waterfalls (c.currentVersion env) with
  | none => rfl
  | some w' =>
    rw [hw] at hfree
    exact absurd rfl hfree

theorem claim_ok {target : Address} {data : List UInt8} (h : c.claim env target data = .ok c') :
    c.revenue.lock = none ∧
      ∃ token, c' = { c with revenue := { c.revenue with lock := some (token, c.held token) } } := by
  simp only [claim, bind_eq_ok, pure_eq_ok] at h
  obtain ⟨_, -, _, -, _, hlock, token, -, rfl⟩ := h
  exact ⟨lock_eq_none hlock, token, rfl⟩

theorem claimReturns_ok (h : c.claimReturns = .ok c') :
    ∃ token before, c.revenue.lock = some (token, before) ∧
      c' = { c with revenue := { c.revenue with
        claimedBalance := Function.update c.revenue.claimedBalance token
          (c.revenue.claimedBalance token + (c.held token - before))
        lock := none } } := by
  unfold claimReturns at h
  split at h
  · cases h
  · rename_i token before hlock
    obtain ⟨claimed, hclaimed, h⟩ := bind_eq_ok.mp h
    obtain ⟨-, rfl⟩ := addW_eq_ok.mp hclaimed
    exact ⟨token, before, hlock, (pure_eq_ok.mp h).symm⟩

/-- Forwarded proceeds leave the claimed bucket and the account together. -/
theorem forwardClaimed_ok {obligationRef settlementId : Bytes32} {amount : Nat}
    (hdistinct : c.revenue.self ≠ c.chain.escrow.self)
    (h : c.forwardClaimed env obligationRef amount settlementId = .ok c') :
    ∃ token, c.revenue.lock = none ∧ amount ≤ c.revenue.claimedBalance token ∧
      c'.revenue = { c.revenue with
        claimedBalance := Function.update c.revenue.claimedBalance token
          (c.revenue.claimedBalance token - amount) } ∧
      c'.chain.escrow.self = c.chain.escrow.self ∧
      (∀ t, t ≠ token → c'.chain.tokens t = c.chain.tokens t) ∧
      c'.held token + amount = c.held token := by
  simp only [forwardClaimed, bind_eq_ok, revertIf_eq_ok, exists_const] at h
  obtain ⟨_, -, _, -, _, hlock, w, -, hamount, h⟩ := h
  obtain ⟨hrequest, hsame⟩ := source_ok h
  obtain ⟨⟨events, hcall⟩, htokens⟩ := request_ok hrequest
  obtain ⟨k, hk, hself, -, -⟩ := settle_counters hcall
  obtain ⟨⟨_, w₁⟩, hpull, -⟩ := Option.map_eq_some_iff.mp hk
  obtain ⟨t, ht, heq⟩ := Option.map_eq_some_iff.mp hpull
  cases heq
  obtain ⟨-, t₁, hbal, -, -, hmove⟩ := Token.transferFrom_move ht
  have htokens' : c'.chain.tokens =
      Function.update (Function.update c.chain.tokens w.token
        ((c.chain.tokens w.token).approve c.revenue.self c.chain.escrow.self amount)) w.token t := by
    rw [htokens]
    simp only [tokensAfter, hpull, Option.map_some, Option.getD_some]
    rfl
  rw [Function.update_idem] at htokens'
  refine ⟨w.token, lock_eq_none hlock, by omega, by rw [hsame], hself, fun t' ht' => ?_, ?_⟩
  · rw [htokens', Function.update_of_ne ht']
  · show (c'.chain.tokens w.token).balanceOf c'.revenue.self + amount = _
    rw [htokens', Function.update_self, hsame]
    have hdebit := (Token.move_of_ne hmove hdistinct).1
    have hbefore : t₁.balanceOf c.revenue.self = c.held w.token := by
      rw [hbal]
      show (Function.update c.chain.tokens w.token _ w.token).balanceOf c.revenue.self = _
      rw [Function.update_self]
      rfl
    rw [hbefore] at hdebit
    exact hdebit

/-- A refund moves tokens of the escrow only. -/
theorem refundUnattributed_held {token dst : Address} {amount : Nat}
    (hdistinct : c.revenue.self ≠ c.chain.escrow.self)
    (h : c.refundUnattributed env token dst amount = .ok c') :
    c'.chain.escrow.self = c.chain.escrow.self ∧ ∀ t, c.held t ≤ c'.held t := by
  simp only [refundUnattributed, bind_eq_ok, pure_eq_ok] at h
  obtain ⟨_, -, _, -, _, -, _, -, c₁, hwithdraw, _, -, _, -, shadow, -, rfl⟩ := h
  obtain ⟨hself, hrevenue, hother, hbalance⟩ := source_withdraw_tokens hwithdraw
  refine ⟨hself, fun t => ?_⟩
  show c.balance t c.revenue.self ≤ c₁.balance t c₁.revenue.self
  rw [hrevenue]
  show c.balance t c.revenue.self ≤ c₁.balance t c.revenue.self
  by_cases ht : t = token
  · subst ht
    have hthis := hbalance c.revenue.self
    dsimp only at hthis
    rw [share_of_ne hdistinct] at hthis
    have hbefore : c.balance t c.revenue.self ≤ c₁.balance t c.revenue.self + 0 := by
      rw [hthis]
      exact Nat.le_add_right _ _
    exact hbefore
  · show (c.chain.tokens t).balanceOf _ ≤ (c₁.chain.tokens t).balanceOf _
    rw [hother t ht]

/-- A release pays out the two buckets of its token and empties them. -/
theorem release_held {token returnTo : Address} (h : c.release env token returnTo = .ok c') :
    c'.chain.escrow.self = c.chain.escrow.self ∧
      (∀ t, t ≠ token → c'.held t = c.held t) := by
  simp only [release, bind_eq_ok] at h
  obtain ⟨_, -, _, -, _, -, _, -, _, -, _, -, _, -, total, -, c₁, hpush, h⟩ := h
  obtain ⟨hrequest, hsame⟩ := source_ok h
  obtain ⟨⟨events, hcall⟩, htokens⟩ := request_ok hrequest
  obtain ⟨-, -, _, _, _, _, _, _, _, hescrow⟩ := admin_ok hcall trivial
  have hkept : c₁.chain.escrow = c.chain.escrow ∧ c₁.revenue.self = c.revenue.self ∧
      ∀ t, t ≠ token → c₁.chain.tokens t = c.chain.tokens t := by
    split at hpush
    · obtain ⟨hsent, hrevenue⟩ := push_sent hpush
      exact ⟨hsent.escrow, by rw [hrevenue], hsent.other⟩
    · cases hpush
      exact ⟨rfl, rfl, fun _ _ => rfl⟩
  refine ⟨by rw [hescrow]; exact congrArg (·.self) hkept.1, fun t ht => ?_⟩
  show (c'.chain.tokens t).balanceOf c'.revenue.self = (c.chain.tokens t).balanceOf c.revenue.self
  rw [htokens, hsame]
  show (c₁.chain.tokens t).balanceOf c₁.revenue.self = _
  rw [hkept.2.2 t ht, hkept.2.1]

/-- Every call but a sweep. -/
theorem call_unswept {call : CustodyCall} (hdistinct : c.revenue.self ≠ c.chain.escrow.self)
    (hnot : ∀ seq, call ≠ .sweep seq) (h : c.call env call = .ok c') : Unswept c c' := by
  cases call with
  | setWaterfall w =>
    obtain ⟨hfree, -, rfl⟩ := setWaterfall_ok h
    refine ⟨rfl, rfl, rfl, rfl, fun _ => Nat.le_refl _, fun v w' hw' => ?_⟩
    have hv : v ≠ c.currentVersion env := by
      intro heq
      rw [heq, hfree] at hw'
      cases hw'
    exact (Function.update_of_ne hv ..).trans hw'
  | sweep seq => exact absurd rfl (hnot seq)
  | claim target data =>
    obtain ⟨-, token, rfl⟩ := claim_ok h
    exact ⟨rfl, rfl, rfl, rfl, fun _ => Nat.le_refl _, fun _ _ hw => hw⟩
  | claimReturns =>
    obtain ⟨token, before, -, rfl⟩ := claimReturns_ok h
    exact ⟨rfl, rfl, rfl, rfl, fun _ => Nat.le_refl _, fun _ _ hw => hw⟩
  | forwardClaimed obligationRef amount settlementId =>
    obtain ⟨token, -, -, hrevenue, hself, -, -⟩ := forwardClaimed_ok hdistinct h
    exact ⟨by rw [hrevenue], hself, by rw [hrevenue], by rw [hrevenue],
      fun _ => by rw [hrevenue], fun _ _ hw => by rw [hrevenue]; exact hw⟩
  | refundUnattributed token dst amount =>
    obtain ⟨shadow, hrevenue⟩ := refundUnattributed_revenue h
    exact ⟨by rw [hrevenue], (refundUnattributed_held hdistinct h).1, by rw [hrevenue],
      by rw [hrevenue], fun _ => by rw [hrevenue], fun _ _ hw => by rw [hrevenue]; exact hw⟩
  | setRefundPending pending =>
    obtain ⟨_, -, h⟩ := bind_eq_ok.mp h
    obtain ⟨_, -, h⟩ := bind_eq_ok.mp h
    cases pure_eq_ok.mp h
    exact ⟨rfl, rfl, rfl, rfl, fun _ => Nat.le_refl _, fun _ _ hw => hw⟩
  | release token returnTo =>
    obtain ⟨-, -, hrevenue, -, -⟩ := release_ok h
    refine ⟨by rw [hrevenue], (release_held h).1, by rw [hrevenue], by rw [hrevenue], fun t => ?_,
      fun _ _ hw => by rw [hrevenue]; exact hw⟩
    rw [hrevenue]
    show Function.update c.revenue.reserveBalance token 0 t ≤ _
    rw [Function.update_apply]
    split
    · exact Nat.zero_le _
    · exact Nat.le_refl _
  | outside call =>
    obtain ⟨-, hrevenue, hself⟩ := outside_ok h
    exact ⟨by rw [hrevenue], hself, by rw [hrevenue], by rw [hrevenue], fun _ => by rw [hrevenue],
      fun _ _ hw => by rw [hrevenue]; exact hw⟩

/-! ### What every step keeps -/

/-- What was swept to a facility is nothing, or within a target that some waterfall declares. -/
def Within (c : Custody) : Prop :=
  ∀ f, c.revenue.sweptToFacility f = 0 ∨ ∃ v w a, c.revenue.waterfalls v = some w ∧
    a ∈ w.facilities ∧ a.facilityId = f ∧ c.revenue.sweptToFacility f ≤ a.target

/-- The account is not the escrow, no waterfall lists a facility twice, and nothing was swept past
the targets. -/
structure Sound (c : Custody) : Prop where
  distinct : c.revenue.self ≠ c.chain.escrow.self
  nodup : ∀ v w, c.revenue.waterfalls v = some w → (w.facilities.map (·.facilityId)).Nodup
  within : c.Within

/-- The account has what its buckets say. In a claim, what it had before the claim is enough. -/
structure Covered (c : Custody) : Prop where
  buckets : ∀ token,
    c.revenue.reserveBalance token + c.revenue.claimedBalance token ≤ c.held token
  claim : ∀ token before, c.revenue.lock = some (token, before) →
    c.revenue.reserveBalance token + c.revenue.claimedBalance token ≤ before ∧
      before ≤ c.held token

theorem currentWaterfall_set {w : Waterfall} (h : c.currentWaterfall env = .ok w) :
    ∃ v, c.revenue.waterfalls v = some w := by
  unfold currentWaterfall at h
  split at h
  · cases h
  · rename_i w' hw
    cases h
    exact ⟨_, hw⟩

/-- A sweep pays a facility within a target of its waterfall. -/
theorem SweepEffect.within {w : Waterfall} {seq : Nat} (h : SweepEffect env w seq c c')
    (hc : c.Within) : c'.Within := by
  obtain ⟨v, hv⟩ := currentWaterfall_set h.waterfall
  obtain ⟨shadow, count, hrevenue⟩ := h.revenue
  intro f
  rw [hrevenue]
  dsimp only
  obtain hnone | ⟨claim, hclaim, hkey, hle⟩ :=
    Seniority.paid_le_target f (w.facilities.map (·.toClaim))
      (c.debtPart w (c.chain.escrow.payouts seq).amount) c.revenue.sweptToFacility
  · have hnone' : Seniority.paidTo f (c.debtPays w (c.chain.escrow.payouts seq).amount) = 0 := hnone
    rw [hnone', Nat.add_zero]
    exact hc f
  · obtain ⟨a, ha, rfl⟩ := List.mem_map.mp hclaim
    exact .inr ⟨v, w, a, hv, ha, hkey, hle⟩

/-- Within a sweep, a facility is paid only if every facility before it has reached its target. -/
theorem SweepEffect.senior {w : Waterfall} {seq : Nat} (h : SweepEffect env w seq c c')
    (hnodup : (w.facilities.map (·.facilityId)).Nodup) {pre post : List FacilityAllocation}
    {a : FacilityAllocation} (hlist : w.facilities = pre ++ a :: post)
    (hpaid : c.revenue.sweptToFacility a.facilityId < c'.revenue.sweptToFacility a.facilityId)
    {e : FacilityAllocation} (he : e ∈ pre) :
    e.target ≤ c'.revenue.sweptToFacility e.facilityId := by
  obtain ⟨shadow, count, hrevenue⟩ := h.revenue
  rw [hrevenue] at hpaid ⊢
  have hclaims : w.facilities.map (·.toClaim) =
      pre.map (·.toClaim) ++ a.toClaim :: post.map (·.toClaim) := by
    rw [hlist, List.map_append, List.map_cons]
  have hkeys : ((pre.map (·.toClaim) ++ a.toClaim :: post.map (·.toClaim)).map (·.key)).Nodup := by
    rw [← hclaims, List.map_map]
    exact hnodup
  have hnow : Seniority.paidTo a.facilityId (c.debtPays w (c.chain.escrow.payouts seq).amount) ≠
      0 := by
    intro hzero
    dsimp only at hpaid
    omega
  unfold debtPays at hnow ⊢
  rw [hclaims] at hnow ⊢
  exact Seniority.senior_reached _ _ _ hkeys hnow e.toClaim (List.mem_map_of_mem he)

/-- A sweep adds to the account what it adds to the reserve, or more. -/
theorem SweepEffect.covered {w : Waterfall} {seq : Nat} (h : SweepEffect env w seq c c')
    (hdistinct : c.revenue.self ≠ c.chain.escrow.self) (hc : c.Covered) : c'.Covered := by
  obtain ⟨shadow, count, hrevenue⟩ := h.revenue
  constructor
  · intro t
    show _ ≤ c'.balance t c'.revenue.self
    rw [hrevenue]
    dsimp only
    have hbefore : c.revenue.reserveBalance t + c.revenue.claimedBalance t ≤
        c.balance t c.revenue.self := hc.buckets t
    by_cases ht : t = w.token
    · subst ht
      rw [Function.update_self]
      have hbalance := h.balance c.revenue.self
      rw [share_self, share_self, share_of_ne hdistinct] at hbalance
      have hsum := h.sum
      omega
    · rw [Function.update_of_ne ht]
      have hsame : c'.balance t c.revenue.self = c.balance t c.revenue.self := by
        show (c'.chain.tokens t).balanceOf _ = _
        rw [h.other t ht]
        rfl
      rw [hsame]
      exact hbefore
  · intro token before hlock
    rw [hrevenue] at hlock
    have hnone : c.revenue.lock = some (token, before) := hlock
    rw [h.lock] at hnone
    cases hnone

theorem setWaterfall_sound {w : Waterfall} (h : c.setWaterfall env w = .ok c') (hc : c.Sound) :
    c'.Sound := by
  obtain ⟨hfree, hnodup, rfl⟩ := setWaterfall_ok h
  refine ⟨hc.distinct, fun v w' hw' => ?_, fun f => ?_⟩
  · have hset : Function.update c.revenue.waterfalls (c.currentVersion env) (some w) v = some w' :=
      hw'
    rw [Function.update_apply] at hset
    split at hset
    · cases hset
      exact hnodup
    · exact hc.nodup v w' hset
  · obtain hzero | ⟨v, w', a, hw', hrest⟩ := hc.within f
    · exact .inl hzero
    · refine .inr ⟨v, w', a, ?_, hrest⟩
      have hv : v ≠ c.currentVersion env := by
        intro heq
        rw [heq, hfree] at hw'
        cases hw'
      exact (Function.update_of_ne hv ..).trans hw'

/-- Every step keeps the account sound. -/
theorem ClaimingStep.sound {tx : CustodyTx} (hstep : ClaimingStep c tx c') (hc : c.Sound) :
    c'.Sound := by
  obtain ⟨env, call⟩ := tx
  obtain ⟨-, h⟩ := hstep
  have hkeep : (∀ seq, call ≠ .sweep seq) → c'.revenue.waterfalls = c.revenue.waterfalls →
      c'.Sound := by
    intro hnot hsame
    have hun := call_unswept hc.distinct hnot h
    refine ⟨by rw [hun.self, hun.source]; exact hc.distinct, ?_, ?_⟩
    · rw [hsame]
      exact hc.nodup
    · unfold Within
      rw [hsame, hun.swept]
      exact hc.within
  cases call with
  | setWaterfall w => exact setWaterfall_sound h hc
  | sweep seq =>
    obtain ⟨w, heffect⟩ := sweep_ok h
    obtain ⟨shadow, count, hrevenue⟩ := heffect.revenue
    refine ⟨?_, ?_, heffect.within hc.within⟩
    · rw [hrevenue, heffect.source]
      exact hc.distinct
    · rw [hrevenue]
      exact hc.nodup
  | claim target data =>
    obtain ⟨-, token, rfl⟩ := claim_ok h
    exact ⟨hc.distinct, hc.nodup, hc.within⟩
  | claimReturns =>
    obtain ⟨token, before, -, rfl⟩ := claimReturns_ok h
    exact ⟨hc.distinct, hc.nodup, hc.within⟩
  | forwardClaimed obligationRef amount settlementId =>
    obtain ⟨token, -, -, hrevenue, -, -, -⟩ := forwardClaimed_ok hc.distinct h
    exact hkeep (fun _ => nofun) (by rw [hrevenue])
  | refundUnattributed token dst amount =>
    obtain ⟨shadow, hrevenue⟩ := refundUnattributed_revenue h
    exact hkeep (fun _ => nofun) (by rw [hrevenue])
  | setRefundPending pending =>
    obtain ⟨_, -, h⟩ := bind_eq_ok.mp h
    obtain ⟨_, -, h⟩ := bind_eq_ok.mp h
    cases pure_eq_ok.mp h
    exact ⟨hc.distinct, hc.nodup, hc.within⟩
  | release token returnTo =>
    obtain ⟨-, -, hrevenue, -, -⟩ := release_ok h
    exact hkeep (fun _ => nofun) (by rw [hrevenue])
  | outside call =>
    obtain ⟨-, hrevenue, -⟩ := outside_ok h
    exact hkeep (fun _ => nofun) (by rw [hrevenue])

/-- The buckets stay covered while the balances of the account do not fall and the buckets and the
claim stay. -/
theorem Covered.congr (hc : c.Covered)
    (hreserve : c'.revenue.reserveBalance = c.revenue.reserveBalance)
    (hclaimed : c'.revenue.claimedBalance = c.revenue.claimedBalance)
    (hlock : c'.revenue.lock = c.revenue.lock) (hheld : ∀ t, c.held t ≤ c'.held t) :
    c'.Covered := by
  constructor
  · intro t
    rw [hreserve, hclaimed]
    exact (hc.buckets t).trans (hheld t)
  · intro t before
    rw [hlock, hreserve, hclaimed]
    intro hl
    exact ⟨(hc.claim t before hl).1, (hc.claim t before hl).2.trans (hheld t)⟩

/-- Every step keeps the buckets covered, if claims spare the tokens of the account. -/
theorem ClaimingStep.covered {tx : CustodyTx} (hstep : ClaimingStep c tx c') (hsound : c.Sound)
    (hspare : ClaimsSpare c tx c') (hc : c.Covered) : c'.Covered := by
  obtain ⟨env, call⟩ := tx
  have h := hstep.2
  cases call with
  | setWaterfall w =>
    obtain ⟨-, -, rfl⟩ := setWaterfall_ok h
    exact ⟨hc.buckets, hc.claim⟩
  | sweep seq =>
    obtain ⟨w, heffect⟩ := sweep_ok h
    exact heffect.covered hsound.distinct hc
  | claim target data =>
    obtain ⟨-, token, rfl⟩ := claim_ok h
    refine ⟨hc.buckets, fun t before hlock => ?_⟩
    have hsame : some (token, c.held token) = some (t, before) := hlock
    cases hsame
    exact ⟨hc.buckets token, Nat.le_refl _⟩
  | claimReturns =>
    -- What came in during the claim is on top of what covered the buckets before it.
    obtain ⟨token, before, hlock, rfl⟩ := claimReturns_ok h
    obtain ⟨hbefore, hnow⟩ := hc.claim token before hlock
    refine ⟨fun t => ?_, fun t b hl => nomatch hl⟩
    show c.revenue.reserveBalance t + Function.update c.revenue.claimedBalance token _ t ≤ c.held t
    by_cases ht : t = token
    · subst ht
      rw [Function.update_self]
      omega
    · rw [Function.update_of_ne ht]
      exact hc.buckets t
  | forwardClaimed obligationRef amount settlementId =>
    obtain ⟨token, hnone, hle, hrevenue, -, hother, hheld⟩ := forwardClaimed_ok hsound.distinct h
    constructor
    · intro t
      have hbefore := hc.buckets t
      by_cases ht : t = token
      · subst ht
        rw [hrevenue]
        show c.revenue.reserveBalance t + Function.update c.revenue.claimedBalance t _ t ≤ c'.held t
        rw [Function.update_self]
        omega
      · have hsame : c'.held t = c.held t := by
          show (c'.chain.tokens t).balanceOf c'.revenue.self = _
          rw [hother t ht, hrevenue]
          rfl
        rw [hsame, hrevenue]
        show c.revenue.reserveBalance t + Function.update c.revenue.claimedBalance token _ t ≤ _
        rw [Function.update_of_ne ht]
        exact hbefore
    · intro t before hl
      rw [hrevenue] at hl
      have hl' : c.revenue.lock = some (t, before) := hl
      rw [hnone] at hl'
      cases hl'
  | refundUnattributed token dst amount =>
    obtain ⟨shadow, hrevenue⟩ := refundUnattributed_revenue h
    exact hc.congr (by rw [hrevenue]) (by rw [hrevenue]) (by rw [hrevenue])
      (refundUnattributed_held hsound.distinct h).2
  | setRefundPending pending =>
    obtain ⟨_, -, h⟩ := bind_eq_ok.mp h
    obtain ⟨_, -, h⟩ := bind_eq_ok.mp h
    cases pure_eq_ok.mp h
    exact ⟨hc.buckets, hc.claim⟩
  | release token returnTo =>
    obtain ⟨hnone, -, hrevenue, -, -⟩ := release_ok h
    obtain ⟨-, hother⟩ := release_held h
    constructor
    · intro t
      rw [hrevenue]
      show Function.update c.revenue.reserveBalance token 0 t +
        Function.update c.revenue.claimedBalance token 0 t ≤ c'.held t
      by_cases ht : t = token
      · subst ht
        rw [Function.update_self, Function.update_self]
        exact Nat.zero_le _
      · rw [Function.update_of_ne ht, Function.update_of_ne ht, hother t ht]
        exact hc.buckets t
    · intro t before hl
      rw [hrevenue] at hl
      have hl' : c.revenue.lock = some (t, before) := hl
      rw [hnone] at hl'
      cases hl'
  | outside call =>
    obtain ⟨-, hrevenue, -⟩ := outside_ok h
    exact hc.congr (by rw [hrevenue]) (by rw [hrevenue]) (by rw [hrevenue])
      (outside_held_le rfl hsound.distinct hstep hspare)

end Custody

open Custody

/-! ### Runs -/

/-- The payouts that a list of transactions sweeps. -/
def sweptSeqs (txs : List CustodyTx) : List Nat :=
  txs.filterMap fun tx =>
    match tx.2 with
    | .sweep seq => some seq
    | _ => none

/-- The events of a call give a facility what the sweep pays it. -/
theorem Custody.loggedFor_sweep {env : RevenueEnv} {c : Custody} {w : Waterfall} {seq : Nat}
    (h : c.currentWaterfall env = .ok w) (f : FacilityId) :
    loggedFor f (c.sweptLogs env (.sweep seq)) =
      Seniority.paidTo f (c.debtPays w (c.chain.escrow.payouts seq).amount) := by
  unfold sweptLogs loggedFor Seniority.paidTo
  simp only [h, List.map_map]
  rfl

/-- A step raises what was swept to a facility by what its events say. -/
theorem Custody.ClaimingStep.swept {c c' : Custody} {tx : CustodyTx} (hstep : ClaimingStep c tx c')
    (hc : c.Sound) (f : FacilityId) :
    c'.revenue.sweptToFacility f =
      c.revenue.sweptToFacility f + loggedFor f (c.sweptLogs tx.1 tx.2) := by
  obtain ⟨env, call⟩ := tx
  have h := hstep.2
  by_cases hsweep : ∃ seq, call = .sweep seq
  · obtain ⟨seq, rfl⟩ := hsweep
    obtain ⟨w, heffect⟩ := sweep_ok h
    obtain ⟨shadow, count, hrevenue⟩ := heffect.revenue
    rw [loggedFor_sweep heffect.waterfall, hrevenue]
  · have hnot : ∀ seq, call ≠ .sweep seq := fun seq heq => hsweep ⟨seq, heq⟩
    rw [(call_unswept hc.distinct hnot h).swept]
    cases call with
    | sweep seq => exact absurd rfl (hnot seq)
    | _ => rfl

/-- A payout that a run sweeps was not swept before it, and is swept once. -/
theorem Custody.swept_once {txs : List CustodyTx} : ∀ {c c' : Custody}, c.Sound →
    Steps ClaimingStep c txs c' →
    (sweptSeqs txs).Nodup ∧ ∀ seq ∈ sweptSeqs txs, c.revenue.isSwept seq = false := by
  induction txs with
  | nil => exact fun _ _ => ⟨List.nodup_nil, fun _ h => absurd h List.not_mem_nil⟩
  | cons tx txs ih =>
    intro c c' hc hrun
    cases hrun with
    | @cons _ c₁ _ _ _ hstep hrest =>
      obtain ⟨hnodup, hfresh⟩ := ih (hstep.sound hc) hrest
      obtain ⟨env, call⟩ := tx
      by_cases hsweep : ∃ seq, call = .sweep seq
      · obtain ⟨seq, rfl⟩ := hsweep
        obtain ⟨w, heffect⟩ := sweep_ok hstep.2
        obtain ⟨shadow, count, hrevenue⟩ := heffect.revenue
        have hseqs : sweptSeqs ((env, .sweep seq) :: txs) = seq :: sweptSeqs txs := rfl
        rw [hseqs]
        -- The sweep marks its payout, so the rest of the run does not sweep it again.
        have hmarked : c₁.revenue.isSwept = Function.update c.revenue.isSwept seq true := by
          rw [hrevenue]
        have hnew : seq ∉ sweptSeqs txs := by
          intro hmem
          have hthis := hfresh seq hmem
          rw [hmarked, Function.update_self] at hthis
          cases hthis
        refine ⟨List.nodup_cons.mpr ⟨hnew, hnodup⟩, fun s hs => ?_⟩
        obtain rfl | hs := List.mem_cons.mp hs
        · exact heffect.fresh
        · have hthis := hfresh s hs
          have hne : s ≠ seq := by
            intro heq
            exact hnew (heq ▸ hs)
          rwa [hmarked, Function.update_of_ne hne] at hthis
      · have hnot : ∀ seq, call ≠ .sweep seq := fun seq heq => hsweep ⟨seq, heq⟩
        have hseqs : sweptSeqs ((env, call) :: txs) = sweptSeqs txs := by
          cases call with
          | sweep seq => exact absurd rfl (hnot seq)
          | _ => rfl
        rw [hseqs]
        refine ⟨hnodup, fun s hs => ?_⟩
        have hthis := hfresh s hs
        rwa [(call_unswept hc.distinct hnot hstep.2).isSwept] at hthis

theorem Custody.Initial.sound {c : Custody} (h : c.Initial)
    (hdistinct : c.revenue.self ≠ c.chain.escrow.self) : c.Sound := by
  obtain ⟨-, -, hfresh, -, -⟩ := h
  refine ⟨hdistinct, fun v w hw => ?_, fun f => .inl ?_⟩
  · rw [hfresh] at hw
    cases hw
  · rw [hfresh]
    rfl

theorem Custody.Initial.covered {c : Custody} (h : c.Initial) : c.Covered := by
  obtain ⟨-, -, hfresh, -, -⟩ := h
  constructor
  · intro t
    rw [hfresh]
    exact Nat.zero_le _
  · intro t before hl
    rw [hfresh] at hl
    cases hl

/-- The waterfall of the controlled account, over every run of it.

- Every payout is swept at most once.
- A sweep splits the payout into four tranches that add up to it, pays and books them; a facility is
  paid only if every facility listed before it has reached its target.
- The reserve of a token grows in a sweep only, and not past the target of its waterfall.
- What was swept to a facility is the sum of its `SweptToSettlement` amounts, and no more than the
  largest target that a waterfall declares for it.
- Of every token the account has its reserve and what it claimed, if the targets of its claims take
  no token from it. -/
theorem waterfall_over_runs (c₀ : Custody) (h₀ : c₀.Initial)
    (hdistinct : c₀.revenue.self ≠ c₀.chain.escrow.self) (txs : List CustodyTx) (c : Custody)
    (hrun : Steps ClaimingStep c₀ txs c) :
    (sweptSeqs txs).Nodup ∧
    (∀ b env seq b', StepOf ClaimingStep c₀ txs b (env, .sweep seq) b' →
      ∃ w, SweepEffect env w seq b b' ∧ ∀ pre a post, w.facilities = pre ++ a :: post →
        b.revenue.sweptToFacility a.facilityId < b'.revenue.sweptToFacility a.facilityId →
        ∀ e ∈ pre, e.target ≤ b'.revenue.sweptToFacility e.facilityId) ∧
    (∀ b tx b' t, StepOf ClaimingStep c₀ txs b tx b' →
      b.revenue.reserveBalance t < b'.revenue.reserveBalance t →
      ∃ seq w, tx.2 = .sweep seq ∧ b.currentWaterfall tx.1 = .ok w ∧ w.token = t ∧
        b'.revenue.reserveBalance t ≤ w.reserveTarget) ∧
    (∀ f, c.revenue.sweptToFacility f =
      tally Custody.next (fun b tx _ => loggedFor f (b.sweptLogs tx.1 tx.2)) c₀ txs) ∧
    (∀ f bound, (∀ v w a, c.revenue.waterfalls v = some w → a ∈ w.facilities →
      a.facilityId = f → a.target ≤ bound) → c.revenue.sweptToFacility f ≤ bound) ∧
    ((∀ b tx b', StepOf ClaimingStep c₀ txs b tx b' → ClaimsSpare b tx b') →
      ∀ token, c.revenue.reserveBalance token + c.revenue.claimedBalance token ≤ c.held token) := by
  have hsound := h₀.sound hdistinct
  have hreach : ∀ {b tx b'}, StepOf ClaimingStep c₀ txs b tx b' → b.Sound := by
    rintro b tx b' ⟨pre, post, -, hpre, -⟩
    exact hpre.invariant (fun _ _ _ hc hstep => hstep.sound hc) hsound
  refine ⟨(swept_once hsound hrun).1, ?_, ?_, fun f => ?_, fun f bound hbound => ?_,
    fun hspare => ?_⟩
  · intro b env seq b' hstep
    obtain ⟨w, heffect⟩ := sweep_ok hstep.step.2
    obtain ⟨v, hv⟩ := currentWaterfall_set heffect.waterfall
    exact ⟨w, heffect, fun pre a post hlist hpaid e he =>
      heffect.senior ((hreach hstep).nodup v w hv) hlist hpaid he⟩
  · intro b tx b' t hstep hgrow
    obtain ⟨env, call⟩ := tx
    by_cases hsweep : ∃ seq, call = .sweep seq
    · obtain ⟨seq, rfl⟩ := hsweep
      obtain ⟨w, heffect⟩ := sweep_ok hstep.step.2
      obtain ⟨shadow, count, hrevenue⟩ := heffect.revenue
      rw [hrevenue] at hgrow ⊢
      dsimp only at hgrow ⊢
      by_cases ht : t = w.token
      · subst ht
        rw [Function.update_self] at hgrow ⊢
        refine ⟨seq, w, rfl, heffect.waterfall, rfl, reservePart_within ?_⟩
        intro hzero
        have hzero' : (b.tranches w (b.chain.escrow.payouts seq).amount).reserve = 0 := hzero
        omega
      · rw [Function.update_of_ne ht] at hgrow
        exact absurd hgrow (Nat.lt_irrefl _)
    · have hun := call_unswept (hreach hstep).distinct (fun seq heq => hsweep ⟨seq, heq⟩)
        hstep.step.2
      exact absurd hgrow (Nat.not_lt_of_le (hun.reserve t))
  · have hnext : ∀ b tx b', ClaimingStep b tx b' → Custody.next b tx = some b' :=
      fun b tx b' hstep => toOption_eq_some.mpr hstep.2
    have hrise := Steps.tally_eq (I := Custody.Sound)
      (f := fun (b : Custody) tx _ => loggedFor f (b.sweptLogs tx.1 tx.2))
      (Φ := fun (b : Custody) => b.revenue.sweptToFacility f) hnext
      (fun b tx b' hb hstep => hstep.sound hb) (fun b tx b' hb hstep => hstep.swept hb f) hrun hsound
    have hzero : c₀.revenue.sweptToFacility f = 0 := by
      rw [h₀.2.2.1]
      rfl
    rw [hrise, hzero, Nat.zero_add]
  · have hend : c.Sound := hrun.invariant (fun _ _ _ hc hstep => hstep.sound hc) hsound
    obtain hzero | ⟨v, w, a, hw, ha, hkey, hle⟩ := hend.within f
    · rw [hzero]
      exact Nat.zero_le _
    · exact hle.trans (hbound v w a hw ha hkey)
  · have hlocated := Steps.located (fun _ _ _ h => h) [] hrun (.nil c₀)
    rw [List.nil_append, List.append_nil] at hlocated
    refine (hlocated.invariant (P := fun b : Custody => b.Sound ∧ b.Covered) ?_
      ⟨hsound, h₀.covered⟩).2.buckets
    rintro b tx b' ⟨hb, hcover⟩ ⟨hstep, hof⟩
    exact ⟨hstep.sound hb, hstep.covered hb (hspare b tx b' hof) hcover⟩

namespace Sample

/-- The hand-over, and two payouts of the payer 9 after it. -/
def settledTwice : List ChainTx :=
  handOver ++ [chainTx 9 1 (.settle 1 0 5 100 1), chainTx 9 1 (.settle 1 0 5 50 2)]

/-- The chain after the two payouts. -/
def settledChain : SourceChain :=
  match sourceChain.run settledTwice with
  | .ok w => w
  | .error _ => sourceChain

/-- The account as the owner of an escrow that has two payouts. -/
def settledCustody : Custody where
  revenue := .initial 200 1 1
  chain := settledChain
  deposited := settledChain.escrow.unattributed
  refunded := fun _ => 0

theorem settledCustody_initial : settledCustody.Initial := by
  have hreturns : (sourceChain.run settledTwice).toBool = true := by decide +kernel
  have hrun : sourceChain.run settledTwice = .ok settledChain := by
    unfold settledChain
    cases h : sourceChain.run settledTwice with
    | ok w => rfl
    | error e =>
      rw [h] at hreturns
      cases hreturns
  exact ⟨⟨sourceChain, settledTwice, sourceChain_initial,
    SourceChain.run_steps sourceChain_initial.2 (by decide) hrun⟩, by decide +kernel, rfl, rfl, rfl⟩

/-- A waterfall with every tranche: 5 for the operator, a reserve of 20, and two facilities. -/
def fullWaterfall : Waterfall :=
  { waterfall with
    operatingBps := 1000
    operatingCapPerSweep := 5
    operatingRecipient := 13
    reserveTarget := 20
    facilities := [⟨1, 40⟩, ⟨2, 100⟩] }

/-- Both payouts are swept. -/
def sweepsTwice : List CustodyTx :=
  [custodyTx 1 2 (.setWaterfall fullWaterfall), custodyTx 1 3 (.sweep 1), custodyTx 1 4 (.sweep 2)]

end Sample

/-- Of 100, 5 are paid to the operator, 20 are kept, and the facilities get 40 and 35; of 50, the
operator gets 5 and the second facility 45. -/
theorem waterfall_over_runs_sample :
    ∃ c, Steps ClaimingStep Sample.settledCustody Sample.sweepsTwice c ∧
      c.revenue.reserveBalance 5 = 20 ∧ c.held 5 = 20 ∧ (c.chain.tokens 5).balanceOf 13 = 10 ∧
      c.revenue.sweptToFacility 1 = 40 ∧ c.revenue.sweptToFacility 2 = 80 ∧
      (sweptSeqs Sample.sweepsTwice).Nodup ∧
      (∀ f, c.revenue.sweptToFacility f = tally Custody.next
        (fun b tx _ => loggedFor f (b.sweptLogs tx.1 tx.2)) Sample.settledCustody
          Sample.sweepsTwice) ∧
      ∀ token, c.revenue.reserveBalance token + c.revenue.claimedBalance token ≤ c.held token := by
  have hview : ((Sample.settledCustody.run Sample.sweepsTwice).map fun c =>
      (c.revenue.reserveBalance 5, c.held 5, (c.chain.tokens 5).balanceOf 13,
        c.revenue.sweptToFacility 1, c.revenue.sweptToFacility 2)) = some (20, 20, 10, 40, 80) := by
    decide +kernel
  obtain ⟨c, hrun, hview⟩ := Option.map_eq_some_iff.mp hview
  simp only [Prod.mk.injEq] at hview
  obtain ⟨hreserve, hheld, hoperator, hfirst, hsecond⟩ := hview
  have hsteps : Steps ClaimingStep Sample.settledCustody Sample.sweepsTwice c :=
    (Custody.run_steps hrun).mono fun _ _ _ hstep => ⟨.inl hstep.1, hstep.2⟩
  obtain ⟨honce, -, -, hlogged, -, hcovered⟩ := waterfall_over_runs _ Sample.settledCustody_initial
    (by decide +kernel) Sample.sweepsTwice c hsteps
  refine ⟨c, hsteps, hreserve, hheld, hoperator, hfirst, hsecond, honce, hlogged, hcovered ?_⟩
  -- No step of the run is a call from outside.
  intro b tx b' hof call hcall
  obtain ⟨pre, post, hlist, -, -⟩ := hof
  have hmem : tx ∈ Sample.sweepsTwice := hlist ▸ List.mem_append_right pre List.mem_cons_self
  simp only [Sample.sweepsTwice, List.mem_cons, List.not_mem_nil, or_false] at hmem
  obtain rfl | rfl | rfl := hmem <;> cases hcall

end Rackline
