import Rackline.Proofs.Payers
import Rackline.SourceChain

/-!
# `Rackline.Proofs.Buckets`: the counters of the escrow and its tokens

The escrow counts, for every token, what it holds (`tracked`) and the part of that which came in as
unattributed deposits. `BucketEffect` says what each call does to the two counters and to the balance.
What is tracked is always covered by the balance. What is unattributed is covered by what is tracked
as long as a payout that is cancelled still leaves the deposits covered: `cancelPayout` lowers the
first counter and not the second, also when the cash of the payout was withdrawn before, and then
pays the payer out of the deposits.

`buckets_stay_backed` is the exact condition.
-/

set_option autoImplicit false

namespace Rackline

open Evm Transition

/-! ### The counters -/

namespace SourceEscrow

variable {m : SourceMsg} {e e' : SourceEscrow} {events : List SourceEvent} {a : AccountKey}
  {ref : Bytes32}

/-- The counters are the same. -/
structure Uncounted (e e' : SourceEscrow) : Prop where
  self : e'.self = e.self
  tracked : e'.tracked = e.tracked
  unattributed : e'.unattributed = e.unattributed

theorem call_uncounted {c : SourceCall} (h : e.call m c = .ok (events, e'))
    (hc : c.tokenless = true) : Uncounted e e' := by
  cases c with
  | transferOwnership | setIssuer | setController | setPayer | registerAccount | admitToken =>
    obtain ⟨-, -, _, _, _, _, _, _, _, rfl⟩ := admin_ok h trivial
    exact ⟨rfl, rfl, rfl⟩
  | recognizeObligation | assignObligation | correctObligation | publishCheckpoint |
    reserveCheckpoint =>
    cases call_effect h with
    | quiet hc => exact hc.elim
    | _ => exact ⟨rfl, rfl, rfl⟩
  | settle | cancelPayout | depositUnattributed | recordDirectDeposit | withdraw => cases hc

theorem settle_counters {token : Address} {amount : Nat} {settlementId : Bytes32}
    {pulled : Option Nat}
    (h : e.settle m a ref token amount settlementId pulled = .ok (events, e')) :
    ∃ k, pulled = some k ∧ e'.self = e.self ∧ e'.unattributed = e.unattributed ∧
      e'.tracked = Function.update e.tracked token (e.tracked token + k) := by
  obtain ⟨k, e₁, rfl, -, -, -, -, hsettle, -, rfl⟩ := settle_ok h
  obtain ⟨-, rfl⟩ | ⟨-, -, o', -, rfl⟩ := settleObligation_ok hsettle
  · exact ⟨k, rfl, rfl, rfl, rfl⟩
  · exact ⟨k, rfl, rfl, rfl, rfl⟩

theorem cancelPayout_counters {seq : Nat} {pushed : Bool}
    (h : e.cancelPayout m seq pushed = .ok (events, e')) :
    pushed = true ∧ (e.payouts seq).amount ≤ e.tracked (e.payouts seq).token ∧
      e'.self = e.self ∧ e'.unattributed = e.unattributed ∧
      e'.tracked = Function.update e.tracked (e.payouts seq).token
        (e.tracked (e.payouts seq).token - (e.payouts seq).amount) := by
  cases cancelPayout_effect h with
  | quiet hc => exact hc.elim
  | unsettled _ o' hcover => exact ⟨rfl, hcover, rfl, rfl, rfl⟩
  | unsettledUnnamed _ hcover => exact ⟨rfl, hcover, rfl, rfl, rfl⟩

theorem recordUnattributed_ok {token : Address} {k : Nat}
    (h : e.recordUnattributed token k = .ok e') :
    e' = { e with
      tracked := Function.update e.tracked token (e.tracked token + k)
      unattributed := Function.update e.unattributed token (e.unattributed token + k)
      depositSeq := e.depositSeq + 1 } := by
  simp only [recordUnattributed, bind_eq_ok, addW_eq_ok, pure_eq_ok, and_assoc] at h
  obtain ⟨_, -, rfl, _, -, rfl, _, -, rfl, rfl⟩ := h
  rfl

theorem depositUnattributed_ok {token : Address} {amount : Nat} {pulled : Option Nat}
    (h : e.depositUnattributed token amount pulled = .ok e') :
    ∃ k, pulled = some k ∧ e.recordUnattributed token k = .ok e' := by
  simp only [depositUnattributed, bind_eq_ok] at h
  obtain ⟨_, -, _, -, h⟩ := h
  cases pulled with
  | none => cases h
  | some k =>
    simp only [bind_eq_ok] at h
    obtain ⟨_, -, h⟩ := h
    exact ⟨k, rfl, h⟩

theorem recordDirectDeposit_ok {token : Address} {balance : Nat}
    (h : e.recordDirectDeposit token balance = .ok e') :
    e.tracked token < balance ∧
      e.recordUnattributed token (balance - e.tracked token) = .ok e' := by
  simp only [recordDirectDeposit, bind_eq_ok, revertIf_eq_ok] at h
  obtain ⟨_, -, _, hlt, h⟩ := h
  exact ⟨by omega, h⟩

theorem withdraw_ok {token : Address} {amount : Nat} {pushed : Bool}
    (h : e.withdraw m token amount pushed = .ok e') :
    m.sender = e.owner ∧ pushed = true ∧ amount ≤ e.tracked token ∧
      e' = { e with
        unattributed := Function.update e.unattributed token
          (e.unattributed token - min amount (e.unattributed token))
        tracked := Function.update e.tracked token (e.tracked token - amount) } := by
  simp only [withdraw, onlyOwner, bind_eq_ok, revertIf_eq_ok, subW_eq_ok, pure_eq_ok,
    exists_const, and_assoc] at h
  obtain ⟨howner, -, _, hcover, rfl, hpushed, rfl⟩ := h
  refine ⟨Classical.not_not.mp howner, by simpa using hpushed, hcover, ?_⟩
  rw [min_def]

end SourceEscrow

/-! ### The tokens -/

namespace SourceChain

variable {m : SourceMsg} {w w' : SourceChain} {token src dst : Address} {amount k : Nat}

/-- The escrow has approved nobody. -/
def Unapproved (w : SourceChain) : Prop :=
  ∀ token spender, (w.tokens token).allowance w.escrow.self spender = 0

theorem setToken_held (t : Token Address) (token' : Address) :
    (w.setToken token t).held token' =
      if token' = token then t.balanceOf w.escrow.self else w.held token' := by
  show (Function.update w.tokens token t token').balanceOf w.escrow.self = _
  rw [Function.update_apply]
  split <;> rfl

theorem Unapproved.setToken (h : w.Unapproved) {t : Token Address}
    (ht : ∀ spender, t.allowance w.escrow.self spender = 0) :
    (w.setToken token t).Unapproved := by
  intro token' spender
  show (Function.update w.tokens token t token').allowance w.escrow.self spender = 0
  rw [Function.update_apply]
  split
  · exact ht spender
  · exact h token' spender

/-- A movement of tokens, whoever makes it, keeps the escrow's zero allowances. -/
theorem Unapproved.transferFrom (h : w.Unapproved) {spender : Address} {t : Token Address}
    (ht : (w.tokens token).transferFrom spender src dst amount = some t) :
    (w.setToken token t).Unapproved := by
  refine h.setToken fun sp => ?_
  obtain ⟨-, t₁, -, hothers, hless, hmove⟩ := Token.transferFrom_move ht
  rw [(Token.move_balance hmove).2.2]
  by_cases hs : w.escrow.self = src
  · have hle := hless sp
    rw [← hs, h token sp] at hle
    omega
  · rw [hothers _ hs]
    exact h token sp

/-- A pull of the escrow grows its balance by what it measured. -/
theorem pull_ok {w₁ : SourceChain} (h : w.pull token src amount = some (k, w₁)) :
    (∀ t, w₁.held t = if t = token then w.held token + k else w.held t) ∧
      (w.Unapproved → w₁.Unapproved) ∧ w₁.escrow = w.escrow := by
  obtain ⟨t, ht, heq⟩ := Option.map_eq_some_iff.mp h
  cases heq
  refine ⟨fun token' => ?_, fun hun => hun.transferFrom ht, rfl⟩
  have hgrow : w.held token ≤ t.balanceOf w.escrow.self := by
    obtain ⟨-, t₁, hbal, -, -, hmove⟩ := Token.transferFrom_move ht
    show (w.tokens token).balanceOf w.escrow.self ≤ _
    rw [← hbal]
    by_cases hs : w.escrow.self = src
    · subst hs
      rw [Token.move_self hmove]
    · exact Token.move_balance_le hmove _ hs
  rw [setToken_held]
  split <;> omega

/-- A push takes at most the amount, and no more than there is. -/
theorem push_ok {w₁ : SourceChain} (h : w.push token dst amount = some w₁) :
    (∀ t, w.held t ≤ w₁.held t + if t = token then amount else 0) ∧
      (w.Unapproved → w₁.Unapproved) ∧ w₁.escrow = w.escrow := by
  obtain ⟨t, ht, rfl⟩ := Option.map_eq_some_iff.mp h
  refine ⟨fun token' => ?_, fun hun => hun.setToken fun sp => ?_, rfl⟩
  · rw [setToken_held]
    split
    · rename_i heq
      subst heq
      by_cases hd : w.escrow.self = dst
      · subst hd
        have hsame := Token.move_self ht
        rw [hsame]
        exact Nat.le_add_right _ _
      · have hdebit := (Token.move_of_ne ht hd).1
        show (w.tokens token').balanceOf w.escrow.self ≤ _
        omega
    · omega
  · rw [(Token.move_balance ht).2.2]
    exact hun token sp

end SourceChain

open SourceEscrow SourceChain

/-- What a call does to the counters and the balances. -/
inductive BucketEffect (m : SourceMsg) (w : SourceChain) : ChainCall → SourceChain → Prop
  | kept {c : ChainCall} {w' : SourceChain} :
      (∀ r, c = .escrow r → ∃ call, r = .tokenless call) → Uncounted w.escrow w'.escrow →
      (∀ t, w.held t ≤ w'.held t) → BucketEffect m w c w'
  | settled {w' : SourceChain} (a : AccountKey) (ref : Bytes32) (token : Address) (amount : Nat)
      (settlementId : Bytes32) (k : Nat) :
      w'.escrow.unattributed = w.escrow.unattributed →
      w'.escrow.tracked = Function.update w.escrow.tracked token (w.escrow.tracked token + k) →
      (∀ t, w'.held t = if t = token then w.held token + k else w.held t) →
      BucketEffect m w (.escrow (.settle a ref token amount settlementId)) w'
  | cancelled {w' : SourceChain} (seq : Nat) :
      (w.escrow.payouts seq).amount ≤ w.escrow.tracked (w.escrow.payouts seq).token →
      w'.escrow.unattributed = w.escrow.unattributed →
      w'.escrow.tracked = Function.update w.escrow.tracked (w.escrow.payouts seq).token
        (w.escrow.tracked (w.escrow.payouts seq).token - (w.escrow.payouts seq).amount) →
      (∀ t, w.held t ≤ w'.held t +
        if t = (w.escrow.payouts seq).token then (w.escrow.payouts seq).amount else 0) →
      BucketEffect m w (.escrow (.cancelPayout seq)) w'
  | deposited {w' : SourceChain} (token : Address) (amount k : Nat) :
      ((w.pull token m.sender amount).map (·.1)) = some k →
      w'.escrow.unattributed =
        Function.update w.escrow.unattributed token (w.escrow.unattributed token + k) →
      w'.escrow.tracked = Function.update w.escrow.tracked token (w.escrow.tracked token + k) →
      (∀ t, w'.held t = if t = token then w.held token + k else w.held t) →
      BucketEffect m w (.escrow (.depositUnattributed token amount)) w'
  | recorded {w' : SourceChain} (token : Address) :
      w.escrow.tracked token < w.held token →
      w'.escrow.unattributed = Function.update w.escrow.unattributed token
        (w.escrow.unattributed token + (w.held token - w.escrow.tracked token)) →
      w'.escrow.tracked = Function.update w.escrow.tracked token
        (w.escrow.tracked token + (w.held token - w.escrow.tracked token)) →
      (∀ t, w'.held t = w.held t) →
      BucketEffect m w (.escrow (.recordDirectDeposit token)) w'
  | withdrawn {w' : SourceChain} (token dst : Address) (amount : Nat) :
      m.sender = w.escrow.owner → amount ≤ w.escrow.tracked token →
      w'.escrow.unattributed = Function.update w.escrow.unattributed token
        (w.escrow.unattributed token - min amount (w.escrow.unattributed token)) →
      w'.escrow.tracked =
        Function.update w.escrow.tracked token (w.escrow.tracked token - amount) →
      (∀ t, w.held t ≤ w'.held t + if t = token then amount else 0) →
      BucketEffect m w (.escrow (.withdraw token dst amount)) w'

namespace SourceChain

variable {m : SourceMsg} {w w' : SourceChain}

theorem request_ok {r : SourceRequest} (h : w.request m r = .ok w') :
    (∃ events, w.escrow.call m (w.asCall m r) = .ok (events, w'.escrow)) ∧
      w'.tokens = w.tokensAfter m r := by
  obtain ⟨⟨events, e⟩, hcall, heq⟩ := bind_eq_ok.mp h
  cases pure_eq_ok.mp heq
  exact ⟨⟨events, hcall⟩, rfl⟩

/-- The balances of the escrow depend on its address and the tokens only. -/
theorem held_congr {w₁ : SourceChain} (hself : w'.escrow.self = w₁.escrow.self)
    (htokens : w'.tokens = w₁.tokens) (t : Address) : w'.held t = w₁.held t := by
  unfold held
  rw [hself, htokens]

theorem Unapproved.congr {w₁ : SourceChain} (h : w₁.Unapproved)
    (hself : w'.escrow.self = w₁.escrow.self) (htokens : w'.tokens = w₁.tokens) :
    w'.Unapproved := by
  unfold Unapproved
  rw [hself, htokens]
  exact h

/-- What a call of the escrow does; its address stays, and it still has approved nobody. -/
theorem request_effect {r : SourceRequest} (h : w.request m r = .ok w') :
    BucketEffect m w (.escrow r) w' ∧ w'.escrow.self = w.escrow.self ∧
      (w.Unapproved → w'.Unapproved) := by
  obtain ⟨⟨events, hcall⟩, htokens⟩ := request_ok h
  cases r with
  | settle a ref token amount settlementId =>
    obtain ⟨k, hk, hself, hun, htr⟩ := settle_counters hcall
    obtain ⟨⟨_, w₁⟩, hpull, rfl⟩ := Option.map_eq_some_iff.mp hk
    obtain ⟨hheld, hkeep, hsame⟩ := pull_ok hpull
    have htokens' : w'.tokens = w₁.tokens := by
      rw [htokens]
      simp [tokensAfter, hpull]
    have hself' : w'.escrow.self = w₁.escrow.self := by rw [hself, hsame]
    exact ⟨.settled a ref token amount settlementId _ hun htr fun t =>
        (held_congr hself' htokens' t).trans (hheld t), hself,
      fun hz => (hkeep hz).congr hself' htokens'⟩
  | cancelPayout seq =>
    obtain ⟨hpushed, hcover, hself, hun, htr⟩ := cancelPayout_counters hcall
    obtain ⟨w₁, hpush⟩ := Option.isSome_iff_exists.mp hpushed
    obtain ⟨hheld, hkeep, hsame⟩ := push_ok hpush
    have htokens' : w'.tokens = w₁.tokens := by
      rw [htokens]
      simp [tokensAfter, hpush]
    have hself' : w'.escrow.self = w₁.escrow.self := by rw [hself, hsame]
    refine ⟨.cancelled seq hcover hun htr fun t => ?_, hself,
      fun hz => (hkeep hz).congr hself' htokens'⟩
    rw [held_congr hself' htokens' t]
    exact hheld t
  | depositUnattributed token amount =>
    obtain ⟨e₁, hok, heq⟩ := map_eq_ok.mp hcall
    cases heq
    obtain ⟨k, hk, hrecord⟩ := depositUnattributed_ok hok
    have hresult := recordUnattributed_ok hrecord
    obtain ⟨⟨_, w₁⟩, hpull, rfl⟩ := Option.map_eq_some_iff.mp hk
    obtain ⟨hheld, hkeep, hsame⟩ := pull_ok hpull
    have htokens' : w'.tokens = w₁.tokens := by
      rw [htokens]
      simp [tokensAfter, hpull]
    have hself : w'.escrow.self = w.escrow.self := by rw [hresult]
    have hself' : w'.escrow.self = w₁.escrow.self := by rw [hself, hsame]
    exact ⟨.deposited token amount _ hk (by rw [hresult]) (by rw [hresult]) fun t =>
        (held_congr hself' htokens' t).trans (hheld t), hself,
      fun hz => (hkeep hz).congr hself' htokens'⟩
  | recordDirectDeposit token =>
    obtain ⟨e₁, hok, heq⟩ := map_eq_ok.mp hcall
    cases heq
    obtain ⟨hlt, hrecord⟩ := recordDirectDeposit_ok hok
    have hresult := recordUnattributed_ok hrecord
    have hself : w'.escrow.self = w.escrow.self := by rw [hresult]
    exact ⟨.recorded token hlt (by rw [hresult]) (by rw [hresult])
      fun t => held_congr hself htokens t, hself, fun hz => hz.congr hself htokens⟩
  | withdraw token dst amount =>
    obtain ⟨e₁, hok, heq⟩ := map_eq_ok.mp hcall
    cases heq
    obtain ⟨howner, hpushed, hcover, hresult⟩ := withdraw_ok hok
    obtain ⟨w₁, hpush⟩ := Option.isSome_iff_exists.mp hpushed
    obtain ⟨hheld, hkeep, hsame⟩ := push_ok hpush
    have htokens' : w'.tokens = w₁.tokens := by
      rw [htokens]
      simp [tokensAfter, hpush]
    have hself : w'.escrow.self = w.escrow.self := by rw [hresult]
    have hself' : w'.escrow.self = w₁.escrow.self := by rw [hself, hsame]
    refine ⟨.withdrawn token dst amount howner hcover (by rw [hresult]) (by rw [hresult])
      fun t => ?_, hself, fun hz => (hkeep hz).congr hself' htokens'⟩
    rw [held_congr hself' htokens' t]
    exact hheld t
  | tokenless call =>
    have hkept := call_uncounted hcall call.2
    refine ⟨.kept ?_ hkept fun t => le_of_eq (held_congr hkept.self htokens t).symm, hkept.self,
      fun hz => hz.congr hkept.self htokens⟩
    rintro r heq
    cases heq
    exact ⟨call, rfl⟩

/-- A call of a token by anyone but the escrow takes nothing from the escrow. -/
theorem tokenCall_effect {token : Address} {c : TokenCall} (hun : w.Unapproved)
    (hne : m.sender ≠ w.escrow.self) (h : w.tokenCall m.sender token c = .ok w') :
    BucketEffect m w (.token token c) w' ∧ w'.escrow = w.escrow ∧ w'.Unapproved := by
  have hset : ∃ t, w' = w.setToken token t ∧
      (∀ sp, t.allowance w.escrow.self sp = 0) ∧ w.held token ≤ t.balanceOf w.escrow.self := by
    cases c with
    | transfer dst amount =>
      unfold tokenCall at h
      dsimp only at h
      split at h
      · cases h
      · rename_i t ht
        cases h
        refine ⟨t, rfl, fun sp => ?_, Token.move_balance_le ht _ hne.symm⟩
        rw [(Token.move_balance ht).2.2]
        exact hun token sp
    | approve spender amount =>
      cases h
      refine ⟨_, rfl, fun sp => ?_, Nat.le_refl _⟩
      show Function.update (w.tokens token).allowance m.sender _ w.escrow.self sp = 0
      rw [Function.update_of_ne hne.symm]
      exact hun token sp
    | transferFrom src dst amount =>
      unfold tokenCall at h
      dsimp only at h
      split at h
      · cases h
      · rename_i t ht
        cases h
        have hzero := hun.transferFrom ht token
        have hself : ∀ sp, t.allowance w.escrow.self sp = 0 := by
          intro sp
          have hsp : (Function.update w.tokens token t token).allowance w.escrow.self sp = 0 :=
            hzero sp
          rwa [Function.update_self] at hsp
        refine ⟨t, rfl, hself, ?_⟩
        obtain ⟨hallowed, t₁, hbal, -, -, hmove⟩ := Token.transferFrom_move ht
        show (w.tokens token).balanceOf w.escrow.self ≤ _
        rw [← hbal]
        by_cases hs : w.escrow.self = src
        · -- The escrow has approved nobody, so nothing is moved.
          rw [← hs, hun token m.sender] at hallowed
          obtain rfl : amount = 0 := by omega
          by_cases hd : src = dst
          · subst hs hd
            rw [Token.move_self hmove]
          · have hdebit := (Token.move_of_ne hmove hd).1
            rw [hs]
            omega
        · exact Token.move_balance_le hmove _ hs
  obtain ⟨t, rfl, hzero, hgrow⟩ := hset
  refine ⟨.kept (fun r heq => nomatch heq) ⟨rfl, rfl, rfl⟩ fun token' => ?_, rfl,
    hun.setToken hzero⟩
  rw [setToken_held]
  split
  · rename_i heq
    rw [heq]
    exact hgrow
  · exact Nat.le_refl _

end SourceChain

/-! ### Backing -/

namespace SourceChain

/-- The unattributed deposits are part of what is tracked, and that is covered by the balance. -/
def Backed (w : SourceChain) : Prop :=
  ∀ token, w.escrow.unattributed token ≤ w.escrow.tracked token ∧
    w.escrow.tracked token ≤ w.held token

/-- What holds in every state: the balances cover what is tracked. -/
structure Solvent (w : SourceChain) : Prop where
  unapproved : w.Unapproved
  covered : ∀ token, w.escrow.tracked token ≤ w.held token

/-- A cancelled payout leaves the unattributed deposits covered. -/
def SparesDeposits (w : SourceChain) : ChainCall → Prop
  | .escrow (.cancelPayout seq) =>
    w.escrow.unattributed (w.escrow.payouts seq).token + (w.escrow.payouts seq).amount ≤
      w.escrow.tracked (w.escrow.payouts seq).token
  | _ => True

variable {m : SourceMsg} {w w' : SourceChain} {c : ChainCall}

/-- Whatever is tracked after a call is covered after it. -/
theorem Solvent.effect (h : ∀ token, w.escrow.tracked token ≤ w.held token)
    (heffect : BucketEffect m w c w') (t : Address) : w'.escrow.tracked t ≤ w'.held t := by
  have hwas := h t
  cases heffect with
  | kept hc hsame hheld =>
    rw [hsame.tracked]
    exact Nat.le_trans hwas (hheld t)
  | settled a ref token amount settlementId k hun htr hheld =>
    rw [htr, hheld, Function.update_apply]
    split
    · rename_i heq
      subst heq
      omega
    · exact hwas
  | cancelled seq hcover hun htr hheld =>
    have hleft := hheld t
    rw [htr, Function.update_apply]
    split
    · rename_i heq
      rw [if_pos heq] at hleft
      rw [← heq] at hcover ⊢
      omega
    · rename_i hne
      rw [if_neg hne] at hleft
      omega
  | deposited token amount k hpull hun htr hheld =>
    rw [htr, hheld, Function.update_apply]
    split
    · rename_i heq
      subst heq
      omega
    · exact hwas
  | recorded token hlt hun htr hheld =>
    rw [htr, hheld, Function.update_apply]
    split
    · rename_i heq
      subst heq
      omega
    · exact hwas
  | withdrawn token dst amount howner hcover hun htr hheld =>
    have hleft := hheld t
    rw [htr, Function.update_apply]
    split
    · rename_i heq
      subst heq
      rw [if_pos rfl] at hleft
      omega
    · rename_i hne
      rw [if_neg hne] at hleft
      omega

/-- The deposits stay part of what is tracked unless a cancelled payout takes from them. -/
theorem BucketEffect.backed_iff (h : ∀ token, w.escrow.unattributed token ≤ w.escrow.tracked token)
    (heffect : BucketEffect m w c w') :
    (∀ token, w'.escrow.unattributed token ≤ w'.escrow.tracked token) ↔ w.SparesDeposits c := by
  cases heffect with
  | kept hc hsame hheld =>
    rw [hsame.unattributed, hsame.tracked]
    refine iff_of_true h ?_
    cases c with
    | escrow r =>
      obtain ⟨call, rfl⟩ := hc r rfl
      trivial
    | token => trivial
  | settled a ref token amount settlementId k hun htr hheld =>
    refine iff_of_true (fun t => ?_) trivial
    have hwas := h t
    rw [hun, htr, Function.update_apply]
    split
    · rename_i heq
      subst heq
      omega
    · exact hwas
  | cancelled seq hcover hun htr hheld =>
    rw [hun, htr]
    show _ ↔ _ + _ ≤ _
    constructor
    · intro h'
      have hthis := h' (w.escrow.payouts seq).token
      rw [Function.update_self] at hthis
      omega
    · intro hspare t
      have hwas := h t
      rw [Function.update_apply]
      split
      · rename_i heq
        rw [heq]
        omega
      · exact hwas
  | deposited token amount k hpull hun htr hheld =>
    refine iff_of_true (fun t => ?_) trivial
    have hwas := h t
    rw [hun, htr, Function.update_apply, Function.update_apply]
    split
    · rename_i heq
      subst heq
      omega
    · exact hwas
  | recorded token hlt hun htr hheld =>
    refine iff_of_true (fun t => ?_) trivial
    have hwas := h t
    rw [hun, htr, Function.update_apply, Function.update_apply]
    split
    · rename_i heq
      subst heq
      omega
    · exact hwas
  | withdrawn token dst amount howner hcover hun htr hheld =>
    refine iff_of_true (fun t => ?_) trivial
    have hwas := h t
    rw [hun, htr, Function.update_apply, Function.update_apply]
    split
    · rename_i heq
      subst heq
      omega
    · exact hwas

end SourceChain

open SourceChain

theorem ChainStep.effect {w w' : SourceChain} {tx : ChainTx} (hun : w.Unapproved)
    (hstep : ChainStep w tx w') :
    BucketEffect tx.1 w tx.2 w' ∧ w'.escrow.self = w.escrow.self ∧ w'.Unapproved := by
  obtain ⟨m, c⟩ := tx
  obtain ⟨hne, hcall⟩ := hstep
  cases c with
  | escrow r =>
    obtain ⟨heffect, hself, hkeep⟩ := request_effect hcall
    exact ⟨heffect, hself, hkeep hun⟩
  | token token c =>
    obtain ⟨heffect, hsame, hkeep⟩ := tokenCall_effect hun hne hcall
    exact ⟨heffect, by rw [hsame], hkeep⟩

theorem SourceChain.Initial.solvent {w : SourceChain} (h : w.Initial) : w.Solvent := by
  obtain ⟨⟨self, owner, hinit⟩, hun⟩ := h
  refine ⟨hun, fun token => ?_⟩
  rw [hinit]
  exact Nat.zero_le _

/-- In every state of a run the balances cover what is tracked; and the unattributed deposits stay
part of what is tracked, in every state of the run, if and only if each cancelled payout leaves them
covered. -/
theorem buckets_stay_backed (w₀ : SourceChain) (h₀ : w₀.Initial) (txs : List ChainTx) :
    ((∀ pre post w, txs = pre ++ post → Steps ChainStep w₀ pre w → w.Backed) ↔
      ∀ w tx w', StepOf ChainStep w₀ txs w tx w' → w.SparesDeposits tx.2) ∧
    ∀ w, Steps ChainStep w₀ txs w → ∀ token, w.escrow.tracked token ≤ w.held token := by
  have hkeep : ∀ w tx w', w.Solvent → ChainStep w tx w' → w'.Solvent := by
    intro w tx w' h hstep
    obtain ⟨heffect, -, hun⟩ := hstep.effect h.unapproved
    exact ⟨hun, Solvent.effect h.covered heffect⟩
  refine ⟨Steps.stays_iff h₀.solvent hkeep ?_ ?_, fun w hrun =>
    (hrun.invariant hkeep h₀.solvent).covered⟩
  · intro token
    refine ⟨?_, h₀.solvent.covered token⟩
    obtain ⟨⟨self, owner, hinit⟩, -⟩ := h₀
    rw [hinit]
    exact Nat.le_refl _
  · intro w tx w' h hbacked hstep
    obtain ⟨heffect, -, -⟩ := hstep.effect h.unapproved
    rw [← BucketEffect.backed_iff (fun t => (hbacked t).1) heffect]
    exact ⟨fun h' t => (h' t).1, fun h' t => ⟨h' t, Solvent.effect h.covered heffect t⟩⟩

/-! ### Runs -/

/-- A run that returned, in which the escrow sends nothing. -/
theorem SourceChain.run_steps {txs : List ChainTx} : ∀ {w w' : SourceChain}, w.Unapproved →
    (∀ tx ∈ txs, tx.1.sender ≠ w.escrow.self) → w.run txs = .ok w' → Steps ChainStep w txs w' := by
  induction txs with
  | nil =>
    intro w w' _ _ h
    cases h
    exact .nil w
  | cons tx rest ih =>
    intro w w' hun hself h
    obtain ⟨w₁, hcall, hrest⟩ := bind_eq_ok.mp h
    have hstep : ChainStep w tx w₁ := ⟨hself tx List.mem_cons_self, hcall⟩
    obtain ⟨-, hsame, hun₁⟩ := hstep.effect hun
    refine .cons hstep (ih hun₁ (fun tx htx => ?_) hrest)
    rw [hsame]
    exact hself tx (List.mem_cons_of_mem _ htx)

/-- The same, with a view of where the run ended. -/
theorem SourceChain.run_view {α : Type} {w : SourceChain} (hun : w.Unapproved)
    (txs : List ChainTx) (hself : ∀ tx ∈ txs, tx.1.sender ≠ w.escrow.self)
    (view : SourceChain → α) {v : α} (h : ((w.run txs).map view).toOption = some v) :
    ∃ w', Steps ChainStep w txs w' ∧ view w' = v := by
  obtain ⟨w', hrun, hview⟩ := map_eq_ok.mp (toOption_eq_some.mp h)
  exact ⟨w', run_steps hun hself hrun, hview⟩

namespace Sample

/-- A token with three funded accounts that have approved the sample escrow. -/
def sourceToken : Token Address where
  balanceOf a := if a = 7 ∨ a = 8 ∨ a = 9 then 1000 else 0
  allowance owner spender := if (owner = 7 ∨ owner = 8 ∨ owner = 9) ∧ spender = 100 then 1000 else 0
  bounded a := by
    split
    · decide
    · decide

/-- The sample escrow and its tokens. -/
def sourceChain : SourceChain := { escrow := sourceEscrow, tokens := fun _ => sourceToken }

theorem sourceChain_initial : sourceChain.Initial := by
  refine ⟨⟨100, 1, rfl⟩, fun token spender => ?_⟩
  have hself : ¬((100 : Address) = 7 ∨ (100 : Address) = 8 ∨ (100 : Address) = 9) := by decide
  show (if ((100 : Address) = 7 ∨ (100 : Address) = 8 ∨ (100 : Address) = 9) ∧ spender = 100
    then 1000 else 0) = 0
  rw [if_neg (fun h => hself h.1)]

/-- A call of the sample escrow. -/
def chainTx (sender : Address) (now : Nat) (request : SourceRequest) : ChainTx :=
  (⟨sender, now⟩, .escrow request)

/-- The payer 9 settles 100, the owner withdraws them, and the stranger 8 deposits 100. -/
def withdrawnThenDeposited : List ChainTx :=
  [chainTx 1 1 (.tokenless ⟨.setIssuer 1 true, rfl⟩), chainTx 1 1 (.tokenless ⟨.setPayer 9 true, rfl⟩),
    chainTx 1 1 (.tokenless ⟨.registerAccount 1 7, rfl⟩),
    chainTx 1 1 (.tokenless ⟨.admitToken 5 6 false, rfl⟩), chainTx 9 2 (.settle 1 0 5 100 1),
    chainTx 1 3 (.withdraw 5 1 100), chainTx 8 4 (.depositUnattributed 5 100)]

end Sample

/-- A payout that was withdrawn is cancelled, and paid back out of a deposit of 100: the deposit is
still recorded, and nothing is left of it. -/
theorem chargeback_takes_deposit :
    ∃ w, Reachable SourceChain.Initial ChainStep w ∧ w.escrow.unattributed 5 = 100 ∧
      w.escrow.tracked 5 = 0 ∧ w.held 5 = 0 ∧ ¬w.Backed := by
  obtain ⟨w, hrun, hview⟩ := SourceChain.run_view (w := Sample.sourceChain)
    Sample.sourceChain_initial.2
    (Sample.withdrawnThenDeposited ++ [Sample.chainTx 1 5 (.cancelPayout 1)]) (by decide)
    (fun w => (w.escrow.unattributed 5, w.escrow.tracked 5, w.held 5)) (v := (100, 0, 0))
    (by decide +kernel)
  simp only [Prod.mk.injEq] at hview
  obtain ⟨hun, htr, hheld⟩ := hview
  refine ⟨w, ⟨_, _, Sample.sourceChain_initial, hrun⟩, hun, htr, hheld, fun h => ?_⟩
  have hbad := (h 5).1
  omega

theorem buckets_stay_backed_sample :
    ((∀ pre post w, Sample.withdrawnThenDeposited = pre ++ post →
        Steps ChainStep Sample.sourceChain pre w → w.Backed) ↔
      ∀ w tx w', StepOf ChainStep Sample.sourceChain Sample.withdrawnThenDeposited w tx w' →
        w.SparesDeposits tx.2) ∧
    ∀ w, Steps ChainStep Sample.sourceChain Sample.withdrawnThenDeposited w →
      ∀ token, w.escrow.tracked token ≤ w.held token :=
  buckets_stay_backed _ Sample.sourceChain_initial _

end Rackline
