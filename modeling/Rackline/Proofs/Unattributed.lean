import Rackline.Proofs.Buckets
import Rackline.RevenueEscrow

/-!
# `Rackline.Proofs.Unattributed`: what stays refundable

The controlled account can refund what is in the unattributed bucket of its escrow and what is on
its shadow counter. A sweep moves an amount from the bucket to the shadow; a deposit grows the
bucket. A refund takes from the shadow what it can, and the escrow takes from the bucket what *it*
can: where both have something and the amount is less than both together, more is taken than is paid.

`unattributed_stays_refundable` makes that exact: what is refundable is what was deposited less what
was refunded, in every state of a run, if and only if no refund overlaps the two counters. More than
that is never refundable.
-/

set_option autoImplicit false

namespace Rackline

open Evm Transition SourceEscrow SourceChain

namespace Custody

variable {env : RevenueEnv} {c c' : Custody}

/-- What is refundable of a token. -/
def refundable (c : Custody) (token : Address) : Nat :=
  c.chain.escrow.unattributed token + c.revenue.unattributedShadow token

/-- What is refundable is what was deposited, less what was refunded. -/
def Exact (c : Custody) : Prop :=
  ∀ token, c.refundable token + c.refunded token = c.deposited token

/-- What a call takes from the counters and does not pay: a refund takes its amount from each of
the two, as far as they go. -/
def lost (c : Custody) (token : Address) : CustodyCall → Nat
  | .refundUnattributed token' _ amount =>
    if token' = token then
      min amount (c.revenue.unattributedShadow token) +
        min amount (c.chain.escrow.unattributed token) - amount
    else 0
  | _ => 0

/-- A refund by an account that is not released takes from one counter only, or empties both. -/
def RefundsOnce (c : Custody) : CustodyCall → Prop
  | .refundUnattributed token _ amount => c.revenue.released = false →
    c.revenue.unattributedShadow token = 0 ∨ c.chain.escrow.unattributed token = 0 ∨
      amount = c.revenue.unattributedShadow token + c.chain.escrow.unattributed token
  | _ => True

/-- The same up to tokens, what facilities got, and the reserve of one token. -/
structure Distributed (token : Address) (c c' : Custody) : Prop where
  escrow : c'.chain.escrow = c.chain.escrow
  revenue : c'.revenue = { c.revenue with
    reserveBalance := c'.revenue.reserveBalance, sweptToFacility := c'.revenue.sweptToFacility }
  reserve : ∀ t, t ≠ token → c'.revenue.reserveBalance t = c.revenue.reserveBalance t
  deposited : c'.deposited = c.deposited
  refunded : c'.refunded = c.refunded

theorem Distributed.refl (token : Address) (c : Custody) : c.Distributed token c :=
  ⟨rfl, rfl, fun _ _ => rfl, rfl, rfl⟩

theorem Distributed.trans {token : Address} {c₁ c₂ c₃ : Custody} (h : c₁.Distributed token c₂)
    (h' : c₂.Distributed token c₃) : c₁.Distributed token c₃ := by
  refine ⟨h'.escrow.trans h.escrow, h'.revenue.trans ?_,
    fun t ht => (h'.reserve t ht).trans (h.reserve t ht), h'.deposited.trans h.deposited,
    h'.refunded.trans h.refunded⟩
  rw [h.revenue]

/-- A push moves tokens and nothing else. -/
theorem push_ok {token dst : Address} {amount : Nat} (h : c.push token dst amount = .ok c') :
    c' = { c with chain := c'.chain } ∧ c'.chain.escrow = c.chain.escrow := by
  unfold push at h
  split at h
  · cases h
  · cases h
    exact ⟨rfl, rfl⟩

theorem push_distributed {token dst : Address} {amount : Nat} (token' : Address)
    (h : c.push token dst amount = .ok c') : c.Distributed token' c' := by
  obtain ⟨hsame, hescrow⟩ := push_ok h
  rw [hsame]
  exact ⟨hescrow, rfl, fun _ _ => rfl, rfl, rfl⟩

theorem payOperating_distributed {w : Waterfall} {amount remaining : Nat}
    (h : c.payOperating w amount = .ok (remaining, c')) : c.Distributed w.token c' := by
  -- Whatever the allowance is, it is pushed or it is nothing.
  have hpaid : ∀ {operating : Nat}, (if operating > 0 then do
        let remaining ← subW amount operating
        let c ← c.push w.token w.operatingRecipient operating
        return (remaining, c)
      else return (amount, c)) = Except.ok (remaining, c') → c.Distributed w.token c' := by
    intro operating h
    split at h
    · obtain ⟨rest, -, h⟩ := bind_eq_ok.mp h
      obtain ⟨c₁, hpush, h⟩ := bind_eq_ok.mp h
      cases pure_eq_ok.mp h
      exact push_distributed w.token hpush
    · cases pure_eq_ok.mp h
      exact .refl w.token c
  obtain ⟨product, -, h⟩ := bind_eq_ok.mp h
  exact hpaid h

theorem fillReserve_distributed (w : Waterfall) (remaining : Nat) (c : Custody) :
    c.Distributed w.token (c.fillReserve w remaining).2 := by
  unfold fillReserve
  dsimp only
  split
  · exact ⟨rfl, rfl, fun t ht => Function.update_of_ne ht .., rfl, rfl⟩
  · exact .refl w.token c

theorem sweepDebt_distributed {token settlementLeg : Address} {fs : List FacilityAllocation} :
    ∀ {remaining left : Nat} {c c' : Custody},
      sweepDebt token settlementLeg fs remaining c = .ok (left, c') → c.Distributed token c' := by
  induction fs with
  | nil =>
    intro remaining left c c' h
    cases h
    exact .refl token c
  | cons f rest ih =>
    intro remaining left c c' h
    simp only [sweepDebt] at h
    split at h
    · cases h
      exact .refl token c
    split at h
    · exact ih h
    · obtain ⟨c₁, hpush, hrest⟩ := bind_eq_ok.mp h
      have htake : c.Distributed token { c with revenue := { c.revenue with
          sweptToFacility := Function.update c.revenue.sweptToFacility f.facilityId
            (c.revenue.sweptToFacility f.facilityId +
              if f.target - c.revenue.sweptToFacility f.facilityId > remaining then remaining
              else f.target - c.revenue.sweptToFacility f.facilityId) } } :=
        ⟨rfl, rfl, fun _ _ => rfl, rfl, rfl⟩
      exact (htake.trans (push_distributed token hpush)).trans (ih hrest)

theorem distribute_distributed {w : Waterfall} {amount : Nat}
    (h : c.distribute w amount = .ok c') : c.Distributed w.token c' := by
  obtain ⟨⟨remaining, c₁⟩, hoperating, h⟩ := bind_eq_ok.mp h
  have hreserve := fillReserve_distributed w remaining c₁
  dsimp only at h
  obtain ⟨⟨residual, c₂⟩, hdebt, h⟩ := bind_eq_ok.mp h
  have hbefore := ((payOperating_distributed hoperating).trans hreserve).trans
    (sweepDebt_distributed hdebt)
  dsimp only at h
  split at h
  · exact hbefore.trans (push_distributed w.token h)
  · cases pure_eq_ok.mp h
    exact hbefore

/-- What a call of the escrow by the account does, apart from the chain: nothing. -/
theorem source_ok {r : SourceRequest} (h : c.source env r = .ok c') :
    c.chain.request ⟨c.revenue.self, env.msg.now⟩ r = .ok c'.chain ∧
      c' = { c with chain := c'.chain } := by
  unfold source at h
  split at h
  · cases h
  · rename_i chain hchain
    cases h
    exact ⟨hchain, rfl⟩

/-- A withdrawal by the account lowers the bucket first. -/
theorem source_withdraw_ok {token dst : Address} {amount : Nat}
    (h : c.source env (.withdraw token dst amount) = .ok c') :
    c' = { c with chain := c'.chain } ∧ c'.chain.escrow.owner = c.chain.escrow.owner ∧
      c'.chain.escrow.payouts = c.chain.escrow.payouts ∧
      c'.chain.escrow.settlementSeq = c.chain.escrow.settlementSeq ∧
      c'.chain.escrow.unattributed = Function.update c.chain.escrow.unattributed token
        (c.chain.escrow.unattributed token - min amount (c.chain.escrow.unattributed token)) := by
  obtain ⟨hrequest, hsame⟩ := source_ok h
  obtain ⟨⟨events, hcall⟩, -⟩ := request_ok hrequest
  obtain ⟨e, hok, heq⟩ := map_eq_ok.mp hcall
  cases heq
  obtain ⟨-, -, -, hresult⟩ := withdraw_ok hok
  rw [hresult]
  exact ⟨hsame, rfl, rfl, rfl, rfl⟩

theorem settle_owner {m : SourceMsg} {e e' : SourceEscrow} {events : List SourceEvent}
    {a : AccountKey} {ref settlementId : Bytes32} {token : Address} {amount : Nat}
    {pulled : Option Nat}
    (h : e.settle m a ref token amount settlementId pulled = .ok (events, e')) :
    e'.owner = e.owner := by
  obtain ⟨k, e₁, rfl, -, -, -, -, hsettle, -, rfl⟩ := settle_ok h
  obtain ⟨-, rfl⟩ | ⟨-, -, o', -, rfl⟩ := settleObligation_ok hsettle
  · rfl
  · rfl

/-- What a sweep takes from the bucket it puts on the shadow. -/
theorem pullFromSource_ok {token : Address} {amount measured : Nat}
    (h : c.pullFromSource env token amount = .ok (measured, c')) :
    measured = amount ∧ c'.chain.escrow.owner = c.chain.escrow.owner ∧
      c'.chain.escrow.payouts = c.chain.escrow.payouts ∧
      c'.chain.escrow.settlementSeq = c.chain.escrow.settlementSeq ∧
      (∀ t, c'.refundable t = c.refundable t) ∧
      (∃ shadow, c'.revenue = { c.revenue with unattributedShadow := shadow }) ∧
      c'.deposited = c.deposited ∧ c'.refunded = c.refunded := by
  simp only [pullFromSource, bind_eq_ok, revertIf_eq_ok, subW_eq_ok, exists_const] at h
  obtain ⟨c₁, hwithdraw, _, ⟨-, rfl⟩, hmeasured, _, ⟨hle, rfl⟩, shadow, hshadow, h⟩ := h
  obtain ⟨hsame, howner, hpayouts, hseq, hbucket⟩ := source_withdraw_ok hwithdraw
  obtain ⟨hmeasured', rfl⟩ := Prod.mk.injEq .. ▸ pure_eq_ok.mp h
  have hrevenue : c₁.revenue = c.revenue := by rw [hsame]
  have hshadow' : shadow = c.revenue.unattributedShadow token +
      (c.chain.escrow.unattributed token - c₁.chain.escrow.unattributed token) := by
    rw [hrevenue] at hshadow
    split at hshadow
    · exact ((addW_eq_ok).mp hshadow).2
    · cases hshadow
      omega
  refine ⟨by omega, howner, hpayouts, hseq, fun t => ?_, ⟨_, by rw [hrevenue]⟩, by rw [hsame],
    by rw [hsame]⟩
  show c₁.chain.escrow.unattributed t + Function.update c₁.revenue.unattributedShadow token shadow t
    = c.chain.escrow.unattributed t + c.revenue.unattributedShadow t
  rw [hrevenue, Function.update_apply]
  split
  · rename_i heq
    subst heq
    omega
  · rename_i hne
    rw [hbucket, Function.update_of_ne hne]

/-! ### Each call -/

/-- What a call does to the refundable amounts: they move with the deposits and the refunds, up to
what the call loses. The escrow stays the account's. -/
structure Accounts (c : Custody) (call : CustodyCall) (c' : Custody) : Prop where
  released : c'.revenue.released = c.revenue.released
  self : c'.revenue.self = c.revenue.self
  owner : c'.chain.escrow.owner = c.chain.escrow.owner
  balance : ∀ token, c'.refundable token + c'.refunded token + c.lost token call +
    c.deposited token = c.refundable token + c.refunded token + c'.deposited token

/-- A call that leaves the chain and the shadow alone. -/
theorem accounts_of_same {call : CustodyCall} (hlost : ∀ token, c.lost token call = 0)
    (hreleased : c'.revenue.released = c.revenue.released)
    (hself : c'.revenue.self = c.revenue.self)
    (howner : c'.chain.escrow.owner = c.chain.escrow.owner)
    (hrefundable : ∀ token, c'.refundable token = c.refundable token)
    (hdeposited : c'.deposited = c.deposited) (hrefunded : c'.refunded = c.refunded) :
    Accounts c call c' := by
  refine ⟨hreleased, hself, howner, fun token => ?_⟩
  rw [hlost, hrefundable, hdeposited, hrefunded]
  omega

theorem sweep_accounts {payoutSeq : Nat} (h : c.sweep env payoutSeq = .ok c') :
    Accounts c (.sweep payoutSeq) c' := by
  simp only [sweep, bind_eq_ok, pure_eq_ok] at h
  obtain ⟨_, -, _, -, _, -, _, -, _, -, _, -, _, -, w, -, _, -, _, -, ⟨amount, c₁⟩, hpull, c₂,
    hdistribute, _, -, rfl⟩ := h
  obtain ⟨-, howner, -, -, hrefundable, ⟨shadow, hrevenue⟩, hdeposited, hrefunded⟩ :=
    pullFromSource_ok hpull
  have hd := distribute_distributed hdistribute
  refine accounts_of_same (fun _ => rfl) ?_ ?_ ?_ (fun token => ?_) ?_ ?_
  · show c₂.revenue.released = _
    rw [hd.revenue]
    show c₁.revenue.released = _
    rw [hrevenue]
  · show c₂.revenue.self = _
    rw [hd.revenue]
    show c₁.revenue.self = _
    rw [hrevenue]
  · show c₂.chain.escrow.owner = _
    rw [hd.escrow]
    exact howner
  · refine Eq.trans ?_ (hrefundable token)
    show c₂.chain.escrow.unattributed token + c₂.revenue.unattributedShadow token = _
    rw [hd.escrow, hd.revenue]
    rfl
  · exact hd.deposited.trans hdeposited
  · exact hd.refunded.trans hrefunded

theorem forwardClaimed_accounts {obligationRef settlementId : Bytes32} {amount : Nat}
    (h : c.forwardClaimed env obligationRef amount settlementId = .ok c') :
    Accounts c (.forwardClaimed obligationRef amount settlementId) c' := by
  simp only [forwardClaimed, bind_eq_ok] at h
  obtain ⟨_, -, _, -, _, -, w, -, _, -, h⟩ := h
  obtain ⟨hrequest, hsame⟩ := source_ok h
  obtain ⟨⟨events, hcall⟩, -⟩ := request_ok hrequest
  have howner := settle_owner hcall
  obtain ⟨k, -, -, hbucket, -⟩ := settle_counters hcall
  refine accounts_of_same (fun _ => rfl) (by rw [hsame]) (by rw [hsame]) howner (fun token => ?_)
    (by rw [hsame]) (by rw [hsame])
  show c'.chain.escrow.unattributed token + c'.revenue.unattributedShadow token = _
  rw [hbucket, hsame]
  rfl

theorem claim_accounts {target : Address} {data : List UInt8}
    (h : c.claim env target data = .ok c') : Accounts c (.claim target data) c' := by
  simp only [claim, bind_eq_ok, pure_eq_ok] at h
  obtain ⟨_, -, _, -, _, -, token, -, rfl⟩ := h
  exact accounts_of_same (fun _ => rfl) rfl rfl rfl (fun _ => rfl) rfl rfl

theorem claimReturns_accounts (h : c.claimReturns = .ok c') : Accounts c .claimReturns c' := by
  unfold claimReturns at h
  split at h
  · cases h
  · obtain ⟨claimed, -, h⟩ := bind_eq_ok.mp h
    cases pure_eq_ok.mp h
    exact accounts_of_same (fun _ => rfl) rfl rfl rfl (fun _ => rfl) rfl rfl

theorem setWaterfall_accounts {w : Waterfall} (h : c.setWaterfall env w = .ok c') :
    Accounts c (.setWaterfall w) c' := by
  simp only [setWaterfall, bind_eq_ok, pure_eq_ok] at h
  obtain ⟨_, -, _, -, _, -, _, -, _, -, _, -, _, -, _, -, _, -, _, -, rfl⟩ := h
  exact accounts_of_same (fun _ => rfl) rfl rfl rfl (fun _ => rfl) rfl rfl

theorem setRefundPending_accounts {pending : Bool}
    (h : c.setRefundPending env pending = .ok c') : Accounts c (.setRefundPending pending) c' := by
  simp only [setRefundPending, bind_eq_ok, pure_eq_ok] at h
  obtain ⟨_, -, _, -, rfl⟩ := h
  exact accounts_of_same (fun _ => rfl) rfl rfl rfl (fun _ => rfl) rfl rfl

/-- A refund takes its amount from the shadow and from the bucket, as far as each goes. -/
theorem refundUnattributed_ok {token dst : Address} {amount : Nat}
    (h : c.refundUnattributed env token dst amount = .ok c') :
    amount ≠ 0 ∧ amount ≤ c.refundable token ∧
      Accounts c (.refundUnattributed token dst amount) c' := by
  simp only [refundUnattributed, refundableUnattributed, bind_eq_ok, revertIf_eq_ok, addW_eq_ok,
    subW_eq_ok, pure_eq_ok, exists_const, and_assoc] at h
  obtain ⟨_, -, _, -, _, -, rfl, hamount, c₁, hwithdraw, _, hle, rfl, _, -, rfl, shadow, hshadow,
    rfl⟩ := h
  obtain ⟨hsame, howner, -, -, hbucket⟩ := source_withdraw_ok hwithdraw
  have hrevenue : c₁.revenue = { c.revenue with
      unattributedShadow := Function.update c.revenue.unattributedShadow token
        (c.revenue.unattributedShadow token -
          if amount ≤ c.revenue.unattributedShadow token then amount
          else c.revenue.unattributedShadow token) } := by rw [hsame]
  have hbucket : c₁.chain.escrow.unattributed = Function.update c.chain.escrow.unattributed token
      (c.chain.escrow.unattributed token - min amount (c.chain.escrow.unattributed token)) :=
    hbucket
  have hrefunded : c₁.refunded = c.refunded := by rw [hsame]
  have hdeposited : c₁.deposited = c.deposited := by rw [hsame]
  have hzero : amount ≠ 0 := fun h0 => hamount (.inl h0)
  have hfits : amount ≤ c.refundable token := by
    unfold refundable
    omega
  refine ⟨hzero, hfits, ?_, ?_, howner, fun t => ?_⟩
  · show c₁.revenue.released = _
    rw [hrevenue]
  · show c₁.revenue.self = _
    rw [hrevenue]
  show c₁.chain.escrow.unattributed t + Function.update c₁.revenue.unattributedShadow token shadow t +
    Function.update c₁.refunded token (c₁.refunded token + amount) t +
    (if token = t then _ else 0) + c.deposited t = _ + c.refunded t + c₁.deposited t
  rw [hrefunded, hdeposited]
  by_cases ht : t = token
  · subst ht
    have hnow : c₁.chain.escrow.unattributed t =
        c.chain.escrow.unattributed t - min amount (c.chain.escrow.unattributed t) := by
      rw [hbucket, Function.update_self]
    have hfrom : (if amount ≤ c.revenue.unattributedShadow t then amount
        else c.revenue.unattributedShadow t) = min amount (c.revenue.unattributedShadow t) :=
      (min_def ..).symm
    have hleft : c₁.revenue.unattributedShadow t = c.revenue.unattributedShadow t -
        min amount (c.revenue.unattributedShadow t) := by
      rw [hrevenue, ← hfrom]
      exact Function.update_self ..
    -- The two counters together give at least the amount, so that nothing is put back.
    have hall : amount ≤ c.chain.escrow.unattributed t - c₁.chain.escrow.unattributed t +
        min amount (c.revenue.unattributedShadow t) := by
      unfold refundable at hfits
      omega
    rw [hfrom, if_neg (by omega)] at hshadow
    cases hshadow
    rw [Function.update_self, Function.update_self, if_pos rfl, hleft]
    unfold refundable at hfits ⊢
    omega
  · rw [Function.update_of_ne ht, Function.update_of_ne ht, if_neg (Ne.symm ht)]
    have hold : c₁.revenue.unattributedShadow t = c.revenue.unattributedShadow t := by
      rw [hrevenue]
      exact Function.update_of_ne ht ..
    rw [hold, hbucket, Function.update_of_ne ht]
    unfold refundable
    omega

/-- A call of the escrow by anyone but its owner keeps the owner. -/
theorem call_owner {m : SourceMsg} {e e' : SourceEscrow} {events : List SourceEvent}
    {call : SourceCall} (h : e.call m call = .ok (events, e')) (hne : m.sender ≠ e.owner) :
    e'.owner = e.owner := by
  cases call with
  | transferOwnership | setIssuer | setController | setPayer | registerAccount | admitToken =>
    exact absurd (admin_ok h trivial).1 hne
  | recognizeObligation | assignObligation | correctObligation | publishCheckpoint |
    reserveCheckpoint | cancelPayout =>
    cases call_effect h with
    | quiet hc => exact hc.elim
    | _ => rfl
  | settle => exact settle_owner h
  | depositUnattributed token amount pulled =>
    obtain ⟨e₁, hok, heq⟩ := map_eq_ok.mp h
    cases heq
    obtain ⟨k, -, hrecord⟩ := depositUnattributed_ok hok
    rw [recordUnattributed_ok hrecord]
  | recordDirectDeposit token balance =>
    obtain ⟨e₁, hok, heq⟩ := map_eq_ok.mp h
    cases heq
    rw [recordUnattributed_ok (recordDirectDeposit_ok hok).2]
  | withdraw token amount pushed =>
    obtain ⟨e₁, hok, heq⟩ := map_eq_ok.mp h
    cases heq
    exact absurd (withdraw_ok hok).1 hne

/-- What others do grows the bucket by what it records. -/
theorem outside_bucket {m : SourceMsg} {w w' : SourceChain} {call : ChainCall}
    (hne : m.sender ≠ w.escrow.owner ∨ ∃ token c, call = .token token c)
    (h : w.call m call = .ok w') :
    w'.escrow.owner = w.escrow.owner ∧ ∀ token,
      w'.escrow.unattributed token = w.escrow.unattributed token + w.recorded m token call := by
  cases call with
  | token token c =>
    unfold SourceChain.call tokenCall at h
    dsimp only at h
    split at h
    · cases h
    · cases h
      exact ⟨rfl, fun _ => rfl⟩
  | escrow r =>
    have hsender : m.sender ≠ w.escrow.owner := by
      obtain hsender | ⟨token, c, heq⟩ := hne
      · exact hsender
      · cases heq
    obtain ⟨⟨events, hcall⟩, -⟩ := request_ok h
    refine ⟨call_owner hcall hsender, fun t => ?_⟩
    cases (request_effect h).1 with
    | kept htokenless hsame hheld =>
      obtain ⟨call, rfl⟩ := htokenless r rfl
      rw [hsame.unattributed]
      rfl
    | settled a ref token amount settlementId k hun htr hheld =>
      rw [hun]
      rfl
    | cancelled seq hcover hun htr hheld =>
      rw [hun]
      rfl
    | deposited token amount k hpull hun htr hheld =>
      rw [hun, Function.update_apply]
      show _ = _ + if token = t then ((w.pull t m.sender amount).map (·.1)).getD 0 else 0
      by_cases ht : t = token
      · subst ht
        rw [if_pos rfl, if_pos rfl, hpull, Option.getD_some]
      · rw [if_neg ht, if_neg (Ne.symm ht), Nat.add_zero]
    | recorded token hlt hun htr hheld =>
      rw [hun, Function.update_apply]
      show _ = _ + if token = t then w.held t - w.escrow.tracked t else 0
      by_cases ht : t = token
      · subst ht
        rw [if_pos rfl, if_pos rfl]
      · rw [if_neg ht, if_neg (Ne.symm ht), Nat.add_zero]
    | withdrawn token dst amount howner => exact absurd howner hsender

theorem outside_accounts {call : ChainCall} (howner : c.chain.escrow.owner = c.revenue.self)
    (hmay : c.MayCall env.msg.sender (.outside call)) (h : c.call env (.outside call) = .ok c') :
    Accounts c (.outside call) c' := by
  unfold Custody.call at h
  dsimp only at h
  split at h
  · cases h
  · rename_i chain hchain
    cases h
    have hne : env.msg.sender ≠ c.chain.escrow.owner ∨ ∃ token tc, call = .token token tc := by
      cases call with
      | escrow r =>
        rw [howner]
        exact .inl hmay.1
      | token token tc => exact .inr ⟨token, tc, rfl⟩
    obtain ⟨hkeep, hbucket⟩ := outside_bucket hne hchain
    refine ⟨rfl, rfl, hkeep, fun token => ?_⟩
    show chain.escrow.unattributed token + c.revenue.unattributedShadow token + c.refunded token + 0 +
      c.deposited token = c.chain.escrow.unattributed token + c.revenue.unattributedShadow token +
      c.refunded token + (c.deposited token + c.chain.recorded _ token call)
    rw [hbucket]
    omega

/-- Every call but `release`, while the escrow is the account's. -/
theorem accounts_of_step {tx : CustodyTx} (howner : c.chain.escrow.owner = c.revenue.self)
    (hnot : ∀ token returnTo, tx.2 ≠ .release token returnTo) (hstep : CustodyStep c tx c') :
    Accounts c tx.2 c' := by
  obtain ⟨env, call⟩ := tx
  obtain ⟨hmay, h⟩ := hstep
  cases call with
  | setWaterfall w => exact setWaterfall_accounts h
  | sweep payoutSeq => exact sweep_accounts h
  | claim target data => exact claim_accounts h
  | claimReturns => exact claimReturns_accounts h
  | forwardClaimed obligationRef amount settlementId => exact forwardClaimed_accounts h
  | refundUnattributed token dst amount => exact (refundUnattributed_ok h).2.2
  | setRefundPending pending => exact setRefundPending_accounts h
  | release token returnTo => exact absurd rfl (hnot token returnTo)
  | outside call => exact outside_accounts howner hmay h

/-- An account that is released stays released. -/
theorem released_stays {tx : CustodyTx} (hreleased : c.revenue.released = true)
    (hstep : CustodyStep c tx c') : c'.revenue.released = true := by
  have hblocked : ∀ {u : Unit}, c.notReleased ≠ .ok u := by
    intro u hok
    exact absurd hreleased (by simpa [notReleased] using (revertIf_eq_ok.mp hok))
  obtain ⟨env, call⟩ := tx
  obtain ⟨-, h⟩ := hstep
  cases call with
  | setWaterfall | sweep | claim | forwardClaimed | setRefundPending | release =>
    obtain ⟨_, -, h⟩ := bind_eq_ok.mp h
    obtain ⟨_, hfree, -⟩ := bind_eq_ok.mp h
    exact absurd hfree hblocked
  | claimReturns =>
    rw [(claimReturns_accounts h).released]
    exact hreleased
  | refundUnattributed =>
    rw [(refundUnattributed_ok h).2.2.released]
    exact hreleased
  | outside call =>
    unfold Custody.call at h
    dsimp only at h
    split at h
    · cases h
    · cases h
      exact hreleased

/-- A refund loses nothing exactly when it takes from one counter, or empties both. -/
theorem lost_eq_zero_iff {tx : CustodyTx} (hreleased : c.revenue.released = false)
    (hstep : CustodyStep c tx c') : (∀ token, c.lost token tx.2 = 0) ↔ c.RefundsOnce tx.2 := by
  obtain ⟨env, call⟩ := tx
  obtain ⟨-, h⟩ := hstep
  cases call with
  | refundUnattributed token dst amount =>
    obtain ⟨hzero, hfits, -⟩ := refundUnattributed_ok h
    unfold refundable at hfits
    constructor
    · intro hlost _
      have hthis : (if token = token then min amount (c.revenue.unattributedShadow token) +
          min amount (c.chain.escrow.unattributed token) - amount else 0) = 0 := hlost token
      rw [if_pos rfl] at hthis
      omega
    · intro honce t
      have hcases := honce hreleased
      show (if token = t then _ else 0) = 0
      split
      · rename_i heq
        subst heq
        omega
      · rfl
  | _ => exact iff_of_true (fun _ => rfl) trivial

end Custody

/-! ### Runs -/

open Custody

/-- While the account is not released, the escrow is its own. -/
def Custody.Owns (c : Custody) : Prop :=
  c.revenue.released = false → c.chain.escrow.owner = c.revenue.self

theorem CustodyStep.released_of_release {c c' : Custody} {env : RevenueEnv}
    {token returnTo : Address} (hstep : CustodyStep c (env, .release token returnTo) c') :
    c'.revenue.released = true := by
  obtain ⟨-, h⟩ := hstep
  have h : c.release env token returnTo = .ok c' := h
  simp only [release, bind_eq_ok] at h
  obtain ⟨_, -, _, -, _, -, _, -, _, -, _, -, _, -, total, -, c₁, hpush, h⟩ := h
  obtain ⟨-, hsame⟩ := source_ok h
  rw [hsame]
  show c₁.revenue.released = true
  split at hpush
  · rw [(push_ok hpush).1]
  · cases hpush
    rfl

/-- What one step does to an account that is not released: it is released, or the escrow stays its
own and the amounts move as `Accounts` says. -/
theorem CustodyStep.accounts {c c' : Custody} {tx : CustodyTx}
    (howner : c.chain.escrow.owner = c.revenue.self) (hstep : CustodyStep c tx c') :
    (c'.revenue.released = true ∧ ∃ token returnTo, tx.2 = .release token returnTo) ∨
      Accounts c tx.2 c' := by
  by_cases hrelease : ∃ token returnTo, tx.2 = .release token returnTo
  · obtain ⟨env, call⟩ := tx
    obtain ⟨token, returnTo, rfl⟩ := hrelease
    exact .inl ⟨hstep.released_of_release, token, returnTo, rfl⟩
  · exact .inr (accounts_of_step howner (fun token returnTo heq =>
      hrelease ⟨token, returnTo, heq⟩) hstep)

theorem CustodyStep.owns {c c' : Custody} {tx : CustodyTx} (h : c.Owns)
    (hstep : CustodyStep c tx c') : c'.Owns := by
  intro hfree'
  cases hfree : c.revenue.released with
  | true =>
    rw [released_stays hfree hstep] at hfree'
    cases hfree'
  | false =>
    obtain ⟨hreleased, -⟩ | haccounts := hstep.accounts (h hfree)
    · rw [hreleased] at hfree'
      cases hfree'
    · rw [haccounts.owner, haccounts.self]
      exact h hfree

/-- Until the account is released: in every state of a run no more is refundable of a token than was
deposited and not refunded; and exactly that is, in every state of the run, if and only if each
refund takes from one of the two counters only or empties both. -/
theorem unattributed_stays_refundable (c₀ : Custody) (h₀ : c₀.Initial) (txs : List CustodyTx) :
    ((∀ pre post c, txs = pre ++ post → Steps CustodyStep c₀ pre c →
        c.revenue.released = false → c.Exact) ↔
      ∀ c tx c', StepOf CustodyStep c₀ txs c tx c' → c.RefundsOnce tx.2) ∧
    ∀ c, Steps CustodyStep c₀ txs c → c.revenue.released = false →
      ∀ token, c.refundable token + c.refunded token ≤ c.deposited token := by
  obtain ⟨-, howner, hfresh, hdeposited, hrefunded⟩ := h₀
  have hstart : c₀.Exact := by
    intro token
    show c₀.chain.escrow.unattributed token + c₀.revenue.unattributedShadow token + c₀.refunded token =
      c₀.deposited token
    rw [hdeposited, hrefunded, hfresh]
    rfl
  constructor
  · refine Steps.stays_iff (I := Owns) (fun _ => howner) (fun c tx c' h hstep => hstep.owns h)
      (fun _ => hstart) ?_
    intro c tx c' howns hexact hstep
    cases hfree : c.revenue.released with
    | true =>
      refine iff_of_true (fun hfree' => ?_) ?_
      · rw [released_stays hfree hstep] at hfree'
        cases hfree'
      · obtain ⟨env, call⟩ := tx
        cases call with
        | refundUnattributed => exact fun hnot => absurd (hfree.symm.trans hnot) (by decide)
        | _ => trivial
    | false =>
      have hwas := hexact hfree
      obtain ⟨hreleased, token, returnTo, htx⟩ | haccounts := hstep.accounts (howns hfree)
      · refine iff_of_true (fun hfree' => ?_) ?_
        · rw [hreleased] at hfree'
          cases hfree'
        · rw [htx]
          trivial
      · rw [← lost_eq_zero_iff hfree hstep]
        constructor
        · intro hnext token
          have hnow := hnext (haccounts.released.trans hfree) token
          have hbalance := haccounts.balance token
          have hbefore := hwas token
          omega
        · intro hlost _ token
          have hbalance := haccounts.balance token
          have hbefore := hwas token
          have hnone := hlost token
          omega
  · intro c hrun
    refine (hrun.invariant (P := fun c => c.Owns ∧ (c.revenue.released = false → ∀ token,
      c.refundable token + c.refunded token ≤ c.deposited token)) ?_ ⟨fun _ => howner, fun _ token =>
        le_of_eq (hstart token)⟩).2
    rintro c tx c' ⟨howns, hle⟩ hstep
    refine ⟨hstep.owns howns, fun hfree' token => ?_⟩
    cases hfree : c.revenue.released with
    | true =>
      rw [released_stays hfree hstep] at hfree'
      cases hfree'
    | false =>
      obtain ⟨hreleased, -⟩ | haccounts := hstep.accounts (howns hfree)
      · rw [hreleased] at hfree'
        cases hfree'
      · have hbalance := haccounts.balance token
        have hbefore := hle hfree token
        omega

namespace Sample

/-- The sample escrow with an issuer, a payer, an account and a token, handed over to 200. -/
def handOver : List ChainTx :=
  [chainTx 1 1 (.tokenless ⟨.setIssuer 1 true, Eq.refl true⟩),
    chainTx 1 1 (.tokenless ⟨.setPayer 9 true, Eq.refl true⟩),
    chainTx 1 1 (.tokenless ⟨.registerAccount 1 7, Eq.refl true⟩),
    chainTx 1 1 (.tokenless ⟨.admitToken 5 6 false, Eq.refl true⟩),
    chainTx 1 1 (.tokenless ⟨.transferOwnership 200, Eq.refl true⟩)]

/-- The chain after the hand-over. -/
def ownedChain : SourceChain :=
  match sourceChain.run handOver with
  | .ok w => w
  | .error _ => sourceChain

theorem ownedChain_run : sourceChain.run handOver = .ok ownedChain := by
  have hreturns : (sourceChain.run handOver).toBool = true := by decide +kernel
  unfold ownedChain
  cases h : sourceChain.run handOver with
  | ok w => rfl
  | error e =>
    rw [h] at hreturns
    cases hreturns

/-- The account at 200, as the owner of the sample escrow. -/
def custody : Custody where
  revenue := .initial 200 1 1
  chain := ownedChain
  deposited := ownedChain.escrow.unattributed
  refunded := fun _ => 0

theorem custody_initial : custody.Initial :=
  ⟨⟨sourceChain, handOver, sourceChain_initial,
    SourceChain.run_steps sourceChain_initial.2 (by decide) ownedChain_run⟩, by decide +kernel, rfl, rfl,
    rfl⟩

/-- A registry in which the agreement 1 is usable at grade E2 in version 1. -/
def ownControl : ControlRegistry where
  agreements := fun _ => ⟨1, 1, 1, 1, 1, ⟨.e2, 9, 1, 1, 0, 0, 1⟩⟩
  status := fun _ => ⟨true, false, false, .e2, 0, 0, 0, 0, false⟩

/-- A call by `sender`, who has every role. -/
def custodyTx (sender : Address) (now : Nat) (call : CustodyCall) : CustodyTx :=
  (⟨{ sender := sender, now := now, hasRole := fun _ _ => true, hasCode := fun _ => true }, ownControl,
    1000⟩, call)

/-- A waterfall of the token 5 without facilities. -/
def waterfall : Waterfall where
  version := 1
  token := 5
  operatingBps := 0
  operatingCapPerSweep := 0
  operatingRecipient := 0
  reserveTarget := 0
  settlementLeg := 11
  residualRecipient := 12
  facilities := []
  claimTargets := []

/-- 50 are deposited, a payout of 100 is swept, and 30 more are deposited. -/
def sweptBetweenDeposits : List CustodyTx :=
  [custodyTx 1 2 (.setWaterfall waterfall),
    custodyTx 8 2 (.outside (.escrow (.depositUnattributed 5 50))),
    custodyTx 9 2 (.outside (.escrow (.settle 1 0 5 100 1))), custodyTx 1 3 (.sweep 1),
    custodyTx 8 4 (.outside (.escrow (.depositUnattributed 5 30)))]

end Sample

/-- Of 80 deposited, with 50 on the shadow and 30 in the bucket, 60 are refunded: nothing is left
refundable, though 20 were not refunded. -/
theorem overlapping_refund_loses :
    ∃ c₀ c, c₀.Initial ∧
      Steps CustodyStep c₀ (Sample.sweptBetweenDeposits ++
        [Sample.custodyTx 1 5 (.refundUnattributed 5 13 60)]) c ∧ c.revenue.released = false ∧
      c.deposited 5 = 80 ∧ c.refunded 5 = 60 ∧ c.refundable 5 = 0 ∧ ¬c.Exact := by
  have hview : ((Sample.custody.run (Sample.sweptBetweenDeposits ++
      [Sample.custodyTx 1 5 (.refundUnattributed 5 13 60)])).map fun c =>
        (c.revenue.released, c.deposited 5, c.refunded 5, c.refundable 5)) =
      some (false, 80, 60, 0) := by decide +kernel
  obtain ⟨c, hrun, hview⟩ := Option.map_eq_some_iff.mp hview
  simp only [Prod.mk.injEq] at hview
  obtain ⟨hreleased, hdeposited, hrefunded, hrefundable⟩ := hview
  refine ⟨Sample.custody, c, Sample.custody_initial, Custody.run_steps hrun, hreleased, hdeposited,
    hrefunded, hrefundable, fun h => ?_⟩
  have hbad := h 5
  omega

theorem unattributed_stays_refundable_sample :
    ((∀ pre post c, Sample.sweptBetweenDeposits = pre ++ post →
        Steps CustodyStep Sample.custody pre c → c.revenue.released = false → c.Exact) ↔
      ∀ c tx c', StepOf CustodyStep Sample.custody Sample.sweptBetweenDeposits c tx c' →
        c.RefundsOnce tx.2) ∧
    ∀ c, Steps CustodyStep Sample.custody Sample.sweptBetweenDeposits c →
      c.revenue.released = false →
      ∀ token, c.refundable token + c.refunded token ≤ c.deposited token :=
  unattributed_stays_refundable _ Sample.custody_initial _

end Rackline
