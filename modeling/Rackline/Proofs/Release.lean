import Rackline.Proofs.Unattributed

/-!
# `Rackline.Proofs.Release`: what a release leaves behind

`release` is given one token. It checks that no payout in that token is unswept and pays out the two
buckets of that token, and then the account is closed: no other call pays the buckets of another
token, and the escrow is no longer the account's. `release_leaves_nothing` says when nothing is left:
when, before the release, the other tokens had empty buckets and no unswept payout.

A bucket is filled only in the token of some waterfall, so that is so for the buckets as long as all
versions use one token.
-/

set_option autoImplicit false

namespace Rackline

open Evm Transition SourceEscrow SourceChain

namespace Custody

variable {env : RevenueEnv} {c c' : Custody}

/-- Both buckets of every token are empty, and every payout of the account is swept or cancelled. -/
structure Closed (c : Custody) : Prop where
  reserve : ∀ t, c.revenue.reserveBalance t = 0
  claimed : ∀ t, c.revenue.claimedBalance t = 0
  swept : ∀ seq, 1 ≤ seq → seq ≤ c.chain.escrow.settlementSeq →
    (c.chain.escrow.payouts seq).accountKey = c.revenue.accountKey →
    (c.chain.escrow.payouts seq).cancelled = false → c.revenue.isSwept seq = true

/-- The tokens other than `token` have empty buckets and no unswept payout. -/
structure OthersEmpty (c : Custody) (token : Address) : Prop where
  reserve : ∀ t, t ≠ token → c.revenue.reserveBalance t = 0
  claimed : ∀ t, t ≠ token → c.revenue.claimedBalance t = 0
  swept : ∀ t, t ≠ token → c.hasUnsweptPayout t = false

theorem hasUnsweptPayout_eq_false {token : Address} :
    c.hasUnsweptPayout token = false ↔ ∀ seq, 1 ≤ seq → seq ≤ c.chain.escrow.settlementSeq →
      (c.chain.escrow.payouts seq).accountKey = c.revenue.accountKey →
      (c.chain.escrow.payouts seq).cancelled = false →
      (c.chain.escrow.payouts seq).token = token → c.revenue.isSwept seq = true := by
  unfold hasUnsweptPayout
  rw [List.any_eq_false]
  have hone : ∀ seq, ¬c.isUnswept token seq = true ↔
      ((c.chain.escrow.payouts seq).accountKey = c.revenue.accountKey →
        (c.chain.escrow.payouts seq).cancelled = false →
        (c.chain.escrow.payouts seq).token = token → c.revenue.isSwept seq = true) := by
    intro seq
    simp only [isUnswept, Bool.and_eq_true, Bool.not_eq_true', decide_eq_true_eq]
    cases c.revenue.isSwept seq <;> simp
  constructor
  · intro h seq hge hle
    have hthis := h (seq - 1) (List.mem_range.mpr (by omega))
    rw [Nat.sub_add_cancel hge] at hthis
    exact (hone seq).mp hthis
  · intro h i hi
    exact (hone (i + 1)).mpr (h (i + 1) (by omega) (by have := List.mem_range.mp hi; omega))

/-- What a release checks and does. -/
theorem release_ok {token returnTo : Address} (h : c.release env token returnTo = .ok c') :
    c.revenue.lock = none ∧ c.hasUnsweptPayout token = false ∧
      c'.revenue = { c.revenue with
        released := true
        reserveBalance := Function.update c.revenue.reserveBalance token 0
        claimedBalance := Function.update c.revenue.claimedBalance token 0 } ∧
      c'.chain.escrow.payouts = c.chain.escrow.payouts ∧
      c'.chain.escrow.settlementSeq = c.chain.escrow.settlementSeq := by
  simp only [release, nonReentrant, bind_eq_ok, revertIf_eq_ok, exists_const] at h
  obtain ⟨_, -, _, -, hlock, -, -, hswept, -, total, -, c₁, hpush, h⟩ := h
  obtain ⟨hrequest, hsame⟩ := source_ok h
  obtain ⟨⟨events, hcall⟩, -⟩ := request_ok hrequest
  obtain ⟨-, -, _, _, _, _, _, _, _, hescrow⟩ := admin_ok hcall trivial
  have hpushed : c₁ = { c with
      revenue := { c.revenue with
        released := true
        reserveBalance := Function.update c.revenue.reserveBalance token 0
        claimedBalance := Function.update c.revenue.claimedBalance token 0 }
      chain := c₁.chain } ∧ c₁.chain.escrow = c.chain.escrow := by
    split at hpush
    · exact push_ok hpush
    · cases hpush
      exact ⟨rfl, rfl⟩
  refine ⟨?_, by simpa using hswept, ?_, ?_, ?_⟩
  · cases hl : c.revenue.lock with
    | none => rfl
    | some l =>
      rw [hl] at hlock
      exact absurd rfl hlock
  · rw [hsame]
    show c₁.revenue = _
    rw [hpushed.1]
  · rw [hescrow, hpushed.2]
  · rw [hescrow, hpushed.2]

/-- A release leaves nothing exactly when it finds nothing in the other tokens. -/
theorem release_closed_iff {token returnTo : Address}
    (h : c.release env token returnTo = .ok c') : c'.Closed ↔ c.OthersEmpty token := by
  obtain ⟨-, hswept, hrevenue, hpayouts, hseq⟩ := release_ok h
  have hreserve : ∀ t, c'.revenue.reserveBalance t =
      if t = token then 0 else c.revenue.reserveBalance t := by
    intro t
    rw [hrevenue]
    exact Function.update_apply ..
  have hclaimed : ∀ t, c'.revenue.claimedBalance t =
      if t = token then 0 else c.revenue.claimedBalance t := by
    intro t
    rw [hrevenue]
    exact Function.update_apply ..
  constructor
  · intro hc
    constructor
    · intro t ht
      have hzero := hc.reserve t
      rwa [hreserve, if_neg ht] at hzero
    · intro t ht
      have hzero := hc.claimed t
      rwa [hclaimed, if_neg ht] at hzero
    · intro t _
      rw [hasUnsweptPayout_eq_false]
      intro seq hge hle haccount hlive _
      have hdone := hc.swept seq hge (by rwa [hseq]) (by rwa [hpayouts, hrevenue]) (by rwa [hpayouts])
      rwa [hrevenue] at hdone
  · intro ho
    constructor
    · intro t
      rw [hreserve]
      split
      · rfl
      · exact ho.reserve t ‹_›
    · intro t
      rw [hclaimed]
      split
      · rfl
      · exact ho.claimed t ‹_›
    · intro seq hge hle haccount hlive
      rw [hpayouts, hrevenue] at haccount
      rw [hpayouts] at hlive
      rw [hseq] at hle
      rw [hrevenue]
      -- The payout is in the token of the release or in another one.
      by_cases ht : (c.chain.escrow.payouts seq).token = token
      · exact hasUnsweptPayout_eq_false.mp hswept seq hge hle haccount hlive ht
      · exact hasUnsweptPayout_eq_false.mp (ho.swept _ ht) seq hge hle haccount hlive rfl

/-! ### After the release -/

theorem refundUnattributed_revenue {token dst : Address} {amount : Nat}
    (h : c.refundUnattributed env token dst amount = .ok c') :
    ∃ shadow, c'.revenue = { c.revenue with unattributedShadow := shadow } := by
  simp only [refundUnattributed, bind_eq_ok, pure_eq_ok] at h
  obtain ⟨_, -, _, -, _, -, _, -, c₁, hwithdraw, _, -, _, -, shadow, -, rfl⟩ := h
  obtain ⟨-, hsame⟩ := source_ok hwithdraw
  rw [hsame]
  exact ⟨_, rfl⟩

/-- A released account that is in no claim changes nothing but its shadow. -/
theorem released_frozen {tx : CustodyTx} (hreleased : c.revenue.released = true)
    (hlock : c.revenue.lock = none) (hstep : CustodyStep c tx c') :
    ∃ shadow, c'.revenue = { c.revenue with unattributedShadow := shadow } := by
  have hblocked : ∀ {u : Unit}, c.notReleased ≠ .ok u := by
    intro u hok
    exact absurd hreleased (by simpa [notReleased] using (revertIf_eq_ok.mp hok))
  obtain ⟨env, call⟩ := tx
  obtain ⟨-, h⟩ := hstep
  cases call with
  | setWaterfall | sweep | claim | forwardClaimed | setRefundPending | release =>
    obtain ⟨_, -, h⟩ := bind_eq_ok.mp h
    obtain ⟨_, hfree, -⟩ := bind_eq_ok.mp h
    exact absurd hfree hblocked
  | claimReturns =>
    unfold Custody.call claimReturns at h
    rw [hlock] at h
    cases h
  | refundUnattributed => exact refundUnattributed_revenue h
  | outside call =>
    unfold Custody.call at h
    dsimp only at h
    split at h
    · cases h
    · cases h
      exact ⟨_, rfl⟩

/-! ### Where the buckets come from -/

/-- The token of a waterfall of some version. -/
def IsWaterfallToken (c : Custody) (t : Address) : Prop :=
  ∃ v w, c.revenue.waterfalls v = some w ∧ w.token = t

/-- Buckets are in tokens of waterfalls. -/
structure Sourced (c : Custody) : Prop where
  reserve : ∀ t, c.revenue.reserveBalance t ≠ 0 → c.IsWaterfallToken t
  claimed : ∀ t, c.revenue.claimedBalance t ≠ 0 → c.IsWaterfallToken t
  lock : ∀ t before, c.revenue.lock = some (t, before) → c.IsWaterfallToken t

theorem currentWaterfall_ok {w : Waterfall} (h : c.currentWaterfall env = .ok w) :
    c.IsWaterfallToken w.token := by
  unfold currentWaterfall at h
  split at h
  · cases h
  · rename_i w' hw
    cases h
    exact ⟨_, w, hw, rfl⟩

/-- A call that sets no waterfall, fills the buckets of one token only, and claims in that token. -/
theorem Sourced.fill {token : Address} (h : c.Sourced) (htoken : c.IsWaterfallToken token)
    (hsame : c'.revenue.waterfalls = c.revenue.waterfalls)
    (hreserve : ∀ t, t ≠ token → c'.revenue.reserveBalance t = c.revenue.reserveBalance t)
    (hclaimed : ∀ t, t ≠ token → c'.revenue.claimedBalance t = c.revenue.claimedBalance t)
    (hlock : ∀ t before, c'.revenue.lock = some (t, before) →
      t = token ∨ c.revenue.lock = some (t, before)) : c'.Sourced := by
  have hkeep : ∀ {t}, c.IsWaterfallToken t → c'.IsWaterfallToken t := by
    intro t ht
    unfold IsWaterfallToken
    rwa [hsame]
  constructor
  · intro t hne
    by_cases ht : t = token
    · rw [ht]
      exact hkeep htoken
    · rw [hreserve t ht] at hne
      exact hkeep (h.reserve t hne)
  · intro t hne
    by_cases ht : t = token
    · rw [ht]
      exact hkeep htoken
    · rw [hclaimed t ht] at hne
      exact hkeep (h.claimed t hne)
  · intro t before hl
    obtain rfl | hold := hlock t before hl
    · exact hkeep htoken
    · exact hkeep (h.lock t before hold)

/-- A call that leaves waterfalls, buckets and claims alone. -/
theorem Sourced.congr (h : c.Sourced) (hsame : c'.revenue.waterfalls = c.revenue.waterfalls)
    (hreserve : c'.revenue.reserveBalance = c.revenue.reserveBalance)
    (hclaimed : c'.revenue.claimedBalance = c.revenue.claimedBalance)
    (hlock : c'.revenue.lock = c.revenue.lock) : c'.Sourced := by
  constructor
  · unfold IsWaterfallToken
    rw [hreserve, hsame]
    exact h.reserve
  · unfold IsWaterfallToken
    rw [hclaimed, hsame]
    exact h.claimed
  · unfold IsWaterfallToken
    rw [hlock, hsame]
    exact h.lock

theorem Sourced.setWaterfall {w : Waterfall} (h : c.Sourced)
    (hok : c.setWaterfall env w = .ok c') : c'.Sourced := by
  simp only [Custody.setWaterfall, bind_eq_ok, revertIf_eq_ok, pure_eq_ok, exists_const] at hok
  obtain ⟨_, -, _, -, -, hfree, -, -, -, -, -, -, rfl⟩ := hok
  have hkeep : ∀ {t}, c.IsWaterfallToken t → IsWaterfallToken { c with revenue := { c.revenue with
      waterfalls := Function.update c.revenue.waterfalls (c.currentVersion env) (some w) } } t := by
    rintro t ⟨v, w', hw', ht⟩
    have hv : v ≠ c.currentVersion env := by
      rintro rfl
      rw [hw'] at hfree
      exact hfree rfl
    exact ⟨v, w', (Function.update_of_ne hv ..).trans hw', ht⟩
  exact ⟨fun t hne => hkeep (h.reserve t hne), fun t hne => hkeep (h.claimed t hne),
    fun t before hl => hkeep (h.lock t before hl)⟩

theorem Sourced.sweep {payoutSeq : Nat} (h : c.Sourced) (hok : c.sweep env payoutSeq = .ok c') :
    c'.Sourced := by
  simp only [Custody.sweep, bind_eq_ok, pure_eq_ok] at hok
  obtain ⟨_, -, _, -, _, -, _, -, _, -, _, -, _, -, w, hw, _, -, _, -, ⟨amount, c₁⟩, hpull, c₂,
    hdistribute, _, -, rfl⟩ := hok
  obtain ⟨-, -, -, -, -, ⟨shadow, hrevenue⟩, -, -⟩ := pullFromSource_ok hpull
  have hd := distribute_distributed hdistribute
  dsimp only at hd
  refine h.fill (currentWaterfall_ok hw) ?_ (fun t ht => ?_) (fun t _ => ?_) fun t before hl => ?_
  · show c₂.revenue.waterfalls = _
    rw [hd.revenue, hrevenue]
  · show c₂.revenue.reserveBalance t = _
    rw [hd.reserve t ht, hrevenue]
  · show c₂.revenue.claimedBalance t = _
    rw [hd.revenue, hrevenue]
  · refine .inr (Eq.trans ?_ hl)
    show _ = c₂.revenue.lock
    rw [hd.revenue, hrevenue]

theorem Sourced.claim {target : Address} {data : List UInt8} (h : c.Sourced)
    (hok : c.claim env target data = .ok c') : c'.Sourced := by
  simp only [Custody.claim, bind_eq_ok, pure_eq_ok] at hok
  obtain ⟨_, -, _, -, _, -, token, hcheck, rfl⟩ := hok
  simp only [checkClaim, bind_eq_ok] at hcheck
  obtain ⟨w, hw, _, -, hfind⟩ := hcheck
  have htoken : w.token = token := by
    split at hfind
    · cases hfind
    · simp only [bind_eq_ok, pure_eq_ok] at hfind
      obtain ⟨_, -, _, -, heq⟩ := hfind
      exact heq
  refine h.fill (htoken ▸ currentWaterfall_ok hw) rfl (fun _ _ => rfl) (fun _ _ => rfl) ?_
  intro t before hl
  cases hl
  exact .inl rfl

theorem Sourced.claimReturns (h : c.Sourced) (hok : c.claimReturns = .ok c') : c'.Sourced := by
  unfold Custody.claimReturns at hok
  split at hok
  · cases hok
  · rename_i token before hlock
    obtain ⟨claimed, -, hok⟩ := bind_eq_ok.mp hok
    cases pure_eq_ok.mp hok
    exact h.fill (h.lock token before hlock) rfl (fun _ _ => rfl)
      (fun t ht => Function.update_of_ne ht ..) (fun t before hl => nomatch hl)

theorem Sourced.forwardClaimed {obligationRef settlementId : Bytes32} {amount : Nat} (h : c.Sourced)
    (hok : c.forwardClaimed env obligationRef amount settlementId = .ok c') : c'.Sourced := by
  simp only [Custody.forwardClaimed, bind_eq_ok] at hok
  obtain ⟨_, -, _, -, _, -, w, hw, _, -, hok⟩ := hok
  obtain ⟨-, hsame⟩ := source_ok hok
  rw [hsame]
  exact h.fill (currentWaterfall_ok hw) rfl (fun _ _ => rfl)
    (fun t ht => Function.update_of_ne ht ..) fun t before hl => .inr hl

theorem Sourced.release {token returnTo : Address} (h : c.Sourced)
    (hok : c.release env token returnTo = .ok c') : c'.Sourced := by
  obtain ⟨-, -, hrevenue, -, -⟩ := release_ok hok
  have hzero : ∀ {f : Address → Nat} {t : Address}, Function.update f token 0 t ≠ 0 → f t ≠ 0 := by
    intro f t hne
    by_cases ht : t = token
    · subst ht
      exact absurd (Function.update_self ..) hne
    · rwa [Function.update_of_ne ht] at hne
  constructor
  · intro t hne
    unfold IsWaterfallToken
    rw [hrevenue] at hne ⊢
    exact h.reserve t (hzero hne)
  · intro t hne
    unfold IsWaterfallToken
    rw [hrevenue] at hne ⊢
    exact h.claimed t (hzero hne)
  · intro t before hl
    unfold IsWaterfallToken
    rw [hrevenue] at hl ⊢
    exact h.lock t before hl

theorem Sourced.step {tx : CustodyTx} (h : c.Sourced) (hstep : CustodyStep c tx c') :
    c'.Sourced := by
  obtain ⟨env, call⟩ := tx
  obtain ⟨-, hok⟩ := hstep
  cases call with
  | setWaterfall w => exact h.setWaterfall hok
  | sweep payoutSeq => exact h.sweep hok
  | claim target data => exact h.claim hok
  | claimReturns => exact h.claimReturns hok
  | forwardClaimed obligationRef amount settlementId => exact h.forwardClaimed hok
  | refundUnattributed token dst amount =>
    obtain ⟨shadow, hrevenue⟩ := refundUnattributed_revenue hok
    exact h.congr (by rw [hrevenue]) (by rw [hrevenue]) (by rw [hrevenue]) (by rw [hrevenue])
  | setRefundPending pending =>
    obtain ⟨_, -, hok⟩ := bind_eq_ok.mp hok
    obtain ⟨_, -, hok⟩ := bind_eq_ok.mp hok
    cases pure_eq_ok.mp hok
    exact h.congr rfl rfl rfl rfl
  | release token returnTo => exact h.release hok
  | outside call =>
    unfold Custody.call at hok
    dsimp only at hok
    split at hok
    · cases hok
    · cases hok
      exact h.congr rfl rfl rfl rfl

end Custody

open Custody

/-! ### Runs -/

/-- When a release succeeds: nothing is left behind if and only if the other tokens had empty buckets
and no unswept payout before it; what the buckets hold after it, they hold for good; and before it,
buckets were filled only in tokens of waterfalls. -/
theorem release_leaves_nothing (c₀ : Custody) (h₀ : c₀.Initial) (txs : List CustodyTx)
    (env : RevenueEnv) (token returnTo : Address) (c c' : Custody)
    (hstep : StepOf CustodyStep c₀ txs c (env, .release token returnTo) c') :
    (c'.Closed ↔ c.OthersEmpty token) ∧
    (∀ more c'', Steps CustodyStep c' more c'' →
      c''.revenue.reserveBalance = c'.revenue.reserveBalance ∧
      c''.revenue.claimedBalance = c'.revenue.claimedBalance) ∧
    ∀ t, c.revenue.reserveBalance t ≠ 0 ∨ c.revenue.claimedBalance t ≠ 0 → c.IsWaterfallToken t := by
  obtain ⟨pre, post, -, hpre, -, hok⟩ := hstep
  obtain ⟨hlock, -, hrevenue, -, -⟩ := release_ok hok
  refine ⟨release_closed_iff hok, fun more c'' hrun => ?_, fun t ht => ?_⟩
  · -- The account is released and in no claim from here on.
    refine (hrun.invariant (P := fun s => (s.revenue.released = true ∧ s.revenue.lock = none) ∧
      s.revenue.reserveBalance = c'.revenue.reserveBalance ∧
      s.revenue.claimedBalance = c'.revenue.claimedBalance) ?_ ⟨?_, rfl, rfl⟩).2
    · rintro s tx s' ⟨⟨hreleased, hnone⟩, hreserve, hclaimed⟩ hnext
      obtain ⟨shadow, hsame⟩ := released_frozen hreleased hnone hnext
      rw [hsame]
      exact ⟨⟨hreleased, hnone⟩, hreserve, hclaimed⟩
    · rw [hrevenue]
      exact ⟨rfl, hlock⟩
  · have hsourced : c.Sourced := by
      refine hpre.invariant (fun s tx s' h hs => h.step hs) ?_
      obtain ⟨-, -, hfresh, -, -⟩ := h₀
      refine ⟨fun t hne => absurd ?_ hne, fun t hne => absurd ?_ hne, fun t before hl => ?_⟩
      · rw [hfresh]
        rfl
      · rw [hfresh]
        rfl
      · rw [hfresh] at hl
        cases hl
    obtain hne | hne := ht
    · exact hsourced.reserve t hne
    · exact hsourced.claimed t hne

namespace Sample

/-- A registry that released the agreement. -/
def releasedControl : ControlRegistry where
  agreements := fun _ => ⟨1, 1, 1, 2, 1, ⟨.e2, 9, 1, 1, 0, 0, 1⟩⟩
  status := fun _ => ⟨true, false, true, .e2, 0, 0, 0, 0, false⟩

/-- A release of the account, which the registry allows, to its borrower wallet. -/
def releaseTx (token : Address) : CustodyTx :=
  (⟨{ sender := 1, now := 9, hasRole := fun _ _ => true, hasCode := fun _ => true }, releasedControl,
    1000⟩, .release token 7)

/-- A payout of 100 is swept into the reserve of the token 5. -/
def sweptIntoReserve : List CustodyTx :=
  [custodyTx 1 2 (.setWaterfall { waterfall with reserveTarget := 1000 }),
    custodyTx 9 2 (.outside (.escrow (.settle 1 0 5 100 1))), custodyTx 1 3 (.sweep 1)]

end Sample

/-- A release with the token 6 leaves the reserve of the token 5 behind. -/
theorem release_of_other_token_leaves_reserve :
    ∃ c₀ c, c₀.Initial ∧ Steps CustodyStep c₀ (Sample.sweptIntoReserve ++ [Sample.releaseTx 6]) c ∧
      c.revenue.released = true ∧ c.revenue.reserveBalance 5 = 100 ∧ ¬c.Closed := by
  have hview : ((Sample.custody.run (Sample.sweptIntoReserve ++ [Sample.releaseTx 6])).map fun c =>
      (c.revenue.released, c.revenue.reserveBalance 5)) = some (true, 100) := by decide +kernel
  obtain ⟨c, hrun, hview⟩ := Option.map_eq_some_iff.mp hview
  simp only [Prod.mk.injEq] at hview
  refine ⟨Sample.custody, c, Sample.custody_initial, Custody.run_steps hrun, hview.1, hview.2,
    fun h => ?_⟩
  have hbad := h.reserve 5
  omega

theorem release_leaves_nothing_sample :
    ∃ c c' : Custody, c.revenue.reserveBalance 5 = 100 ∧ c'.revenue.reserveBalance 5 = 0 ∧
      (c'.Closed ↔ c.OthersEmpty 5) ∧
      (∀ more c'', Steps CustodyStep c' more c'' →
        c''.revenue.reserveBalance = c'.revenue.reserveBalance ∧
        c''.revenue.claimedBalance = c'.revenue.claimedBalance) ∧
      ∀ t, c.revenue.reserveBalance t ≠ 0 ∨ c.revenue.claimedBalance t ≠ 0 →
        c.IsWaterfallToken t := by
  have hbefore : ((Sample.custody.run Sample.sweptIntoReserve).map fun c =>
      (c.revenue.reserveBalance 5, ((c.call (Sample.releaseTx 5).1 (.release 5 7)).toOption.map
        fun c' => c'.revenue.reserveBalance 5))) = some (100, some 0) := by decide +kernel
  obtain ⟨c, hrun, hview⟩ := Option.map_eq_some_iff.mp hbefore
  simp only [Prod.mk.injEq] at hview
  obtain ⟨hreserve, hcall⟩ := hview
  obtain ⟨c', hok, hzero⟩ := Option.map_eq_some_iff.mp hcall
  exact ⟨c, c', hreserve, hzero, release_leaves_nothing _ Sample.custody_initial _ _ 5 7 c c'
    ⟨_, [], rfl, Custody.run_steps hrun, trivial, toOption_eq_some.mp hok⟩⟩

end Rackline
