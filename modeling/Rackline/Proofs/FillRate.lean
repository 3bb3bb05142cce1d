import Mathlib.Algebra.Order.Floor.Div
import Rackline.Lib.LimitOrder
import Rackline.Proofs.LpBook

/-!
# `Rackline.Proofs.FillRate`: withdrawals are filled at the floor of the request

A withdrawal request is a limit order of `Rackline.Lib.LimitOrder`: it gives up shares and names
the least assets it takes for all of them. `RequestMove` lists what a vault call can do to one
request, and a fill is among them only at the floor. So in every state of every run a request
that was filled whole has reserved its minimum.

`Pool.loopVisits` is the list of the states in which the loop of `processWithdrawals` visits a
request. The loop visits the requests from the head on, one by one, and changes no other.
-/

set_option autoImplicit false

namespace Rackline

open Evm Transition Relation

/-! ### A request as an order -/

/-- The order that a withdrawal request places. -/
def WithdrawalRequest.toOrder (r : WithdrawalRequest) : LimitOrder.Order Nat where
  quantity := r.sharesRequested
  left := r.sharesRemaining
  minimum := r.minAssets
  paid := r.assetsReserved

/-- What a vault call does to one request. -/
inductive RequestMove : WithdrawalRequest → WithdrawalRequest → Prop
  | opened (r : WithdrawalRequest) {r' : WithdrawalRequest} (hshares : r'.sharesRequested ≠ 0)
      (hleft : r'.sharesRemaining = r'.sharesRequested) (hpaid : r'.assetsReserved = 0) :
      RequestMove r r'
  | filled (r : WithdrawalRequest) {shares assets : Nat} (hle : shares ≤ r.sharesRemaining)
      (hfloor : r.minAssets * shares ≤ assets * r.sharesRequested) :
      RequestMove r { r with
        sharesRemaining := r.sharesRemaining - shares
        assetsReserved := r.assetsReserved + assets }
  | cancelled (r : WithdrawalRequest) :
      RequestMove r { r with
        sharesRemaining := 0
        cancelled := true }
  | claimed (r : WithdrawalRequest) (assets : Nat) :
      RequestMove r { r with assetsClaimed := r.assetsClaimed + assets }

/-- The moves of a request. -/
def RequestMoves : WithdrawalRequest → WithdrawalRequest → Prop := ReflTransGen RequestMove

/-- A request that nobody cancelled is an order at its floor. The empty request asks for nothing
and names no minimum. -/
structure WithdrawalRequest.AtFloor (r : WithdrawalRequest) : Prop where
  order : r.cancelled = false → r.toOrder.AtFloor
  empty : r.sharesRequested = 0 → r.minAssets = 0

theorem RequestMove.atFloor {r r' : WithdrawalRequest} (h : RequestMove r r') (hr : r.AtFloor) :
    r'.AtFloor := by
  cases h with
  | opened hshares hleft hpaid =>
    exact ⟨fun _ => .whole hleft hpaid, fun hz => absurd hz hshares⟩
  | filled hle hfloor =>
    refine ⟨fun hlive => ?_, hr.empty⟩
    exact LimitOrder.Fill.atFloor (o := r.toOrder)
      ⟨rfl, rfl, Nat.sub_add_cancel hle, rfl, hfloor⟩ (hr.order hlive)
  | cancelled => exact ⟨fun hlive => Bool.noConfusion hlive, hr.empty⟩
  | claimed assets => exact ⟨hr.order, hr.empty⟩

theorem RequestMoves.atFloor {r r' : WithdrawalRequest} (h : RequestMoves r r')
    (hr : r.AtFloor) : r'.AtFloor := by
  induction h with
  | refl => exact hr
  | tail _ hmove ih => exact hmove.atFloor ih

/-- A request at its floor that was filled whole has reserved its minimum. -/
theorem WithdrawalRequest.AtFloor.minAssets_le {r : WithdrawalRequest} (hr : r.AtFloor)
    (hleft : r.sharesRemaining = 0) (hlive : r.cancelled = false) :
    r.minAssets ≤ r.assetsReserved := by
  by_cases hz : r.sharesRequested = 0
  · rw [hr.empty hz]
    exact Nat.zero_le _
  · exact (hr.order hlive).minimum_le_paid hleft (Nat.pos_of_ne_zero hz)

/-! ### What the vault does to its requests -/

/-- Every request of `p'` comes from the request of `p` with its id by moves. -/
def Pool.RequestsMove (p p' : Pool) : Prop :=
  ∀ id, RequestMoves (p.vault.withdrawals id) (p'.vault.withdrawals id)

namespace Pool

variable {p p' q : Pool} {m : Msg}

theorem RequestsMove.refl (p : Pool) : p.RequestsMove p := fun _ => .refl

theorem RequestsMove.trans (h : p.RequestsMove q) (h' : q.RequestsMove p') :
    p.RequestsMove p' := fun id => (h id).trans (h' id)

/-- A write of one request is a move of that request. -/
theorem RequestsMove.write {id : Nat} {r : WithdrawalRequest}
    (hw : p'.vault.withdrawals = Function.update p.vault.withdrawals id r)
    (hmove : RequestMove (p.vault.withdrawals id) r) : p.RequestsMove p' := by
  intro i
  rw [hw]
  by_cases hi : i = id
  · subst hi
    rw [Function.update_self]
    exact .single hmove
  · rw [Function.update_of_ne hi]
    exact .refl

/-- The floor of a fill, cleared of the division. -/
theorem HeadFill.floor_le {now shares assets : Nat} (h : HeadFill now p shares assets) :
    (p.vault.withdrawals p.vault.withdrawalHead).sharesRequested ≠ 0 ∧
    (p.vault.withdrawals p.vault.withdrawalHead).minAssets * shares ≤
      assets * (p.vault.withdrawals p.vault.withdrawalHead).sharesRequested := by
  obtain ⟨minimum, hmin, hle⟩ := h.floor
  obtain ⟨hne, hceil, -⟩ := mulDivUp_eq_ok hmin
  exact ⟨hne, hceil.trans (Nat.mul_le_mul_right _ hle)⟩

theorem requestsMove_skip {now : Nat} (h : HeadStep now p (.skip p')) : p.RequestsMove p' := by
  cases h with
  | passed => exact .refl p
  | expired => exact RequestsMove.write rfl (.cancelled _)

theorem requestsMove_filled {now id shares assets : Nat} {whole : Bool}
    (h : HeadStep now p (.filled id shares assets p' whole)) : p.RequestsMove p' := by
  cases h with
  | whole hfill => exact RequestsMove.write rfl (.filled _ hfill.le_remaining hfill.floor_le.2)
  | part hfill => exact RequestsMove.write rfl (.filled _ hfill.le_remaining hfill.floor_le.2)

end Pool

open Pool in
/-- Every vault call moves the requests. Four calls write a request; the others leave them. -/
theorem VaultCall.exec_requests {m : Msg} {p p' : Pool} {c : VaultCall}
    (h : c.exec m p = .ok p') : p.RequestsMove p' := by
  cases c with
  | requestWithdrawal shares minAssets =>
    obtain ⟨⟨id, q⟩, hc, rfl⟩ := map_eq_ok.mp h
    obtain ⟨hne, -, -, -, rfl⟩ := requestWithdrawal_ok hc
    exact RequestsMove.write rfl (.opened _ hne rfl rfl)
  | cancelWithdrawal id =>
    obtain ⟨-, rfl⟩ := cancelWithdrawal_ok h
    exact RequestsMove.write rfl (.cancelled _)
  | processWithdrawals maxRequests =>
    obtain ⟨⟨filled, reserved, q⟩, hc, rfl⟩ := map_eq_ok.mp h
    obtain ⟨-, hloop⟩ := processWithdrawals_ok hc
    exact processLoop_invariant (P := fun _ q => p.RequestsMove q)
      (fun _ _ _ hq _ hstep => hq.trans (requestsMove_skip hstep))
      (fun _ _ _ _ _ _ _ hq _ hstep => hq.trans (requestsMove_filled hstep)) hloop (.refl p)
  | claimWithdrawal id =>
    obtain ⟨⟨assets, q⟩, hc, rfl⟩ := map_eq_ok.mp h
    obtain ⟨-, -, token, -, rfl⟩ := claimWithdrawal_ok hc
    exact RequestsMove.write rfl (.claimed _ assets)
  | setManager manager enabled =>
    obtain ⟨_, _, _, _, rfl⟩ := setManager_ok h
    exact .refl p
  | finalizeWiring =>
    obtain ⟨_, _, _, _, rfl⟩ := finalizeWiring_ok h
    exact .refl p
  | bindRecoveryManager manager =>
    obtain ⟨_, _, _, _, rfl⟩ := bindRecoveryManager_ok h
    exact .refl p
  | setDepositsPaused paused =>
    obtain ⟨_, _, _, _, rfl⟩ := setDepositsPaused_ok h
    exact .refl p
  | deposit assets minShares =>
    obtain ⟨⟨shares, q⟩, hc, rfl⟩ := map_eq_ok.mp h
    obtain ⟨-, -, -, -, token, -, rfl⟩ := deposit_ok hc
    exact .refl p
  | withdraw shares minAssets =>
    obtain ⟨⟨assets, q⟩, hc, rfl⟩ := map_eq_ok.mp h
    obtain ⟨-, -, -, -, -, -, -, -, token, -, rfl⟩ := withdraw_ok hc
    exact .refl p
  | rollLossEpoch =>
    obtain ⟨-, residual, -, -, rfl⟩ := rollLossEpoch_ok h
    exact .refl p
  | claimEpochRecovery epoch =>
    obtain ⟨⟨assets, q⟩, hc, rfl⟩ := map_eq_ok.mp h
    obtain ⟨-, -, -, token, -, rfl⟩ := claimEpochRecovery_ok hc
    exact .refl p
  | lend id dst amount =>
    obtain ⟨-, -, -, token, -, rfl⟩ := lend_ok h
    exact .refl p
  | onRepayment id result =>
    obtain ⟨-, -, -, -, -, rfl⟩ := onRepayment_ok h
    exact .refl p
  | refundExcess id dst amount =>
    obtain ⟨-, -, token, -, rfl⟩ := refundExcess_ok h
    exact .refl p
  | recordRecovery id amount =>
    obtain ⟨-, -, -, rfl⟩ := recordRecovery_ok h
    exact .refl p
  | recognizeImpairment id amount =>
    obtain ⟨-, -, rfl⟩ := recognizeImpairment_ok h
    exact .refl p
  | reverseImpairment id amount =>
    obtain ⟨-, -, rfl⟩ := reverseImpairment_ok h
    exact .refl p
  | writeOff id =>
    obtain ⟨-, -, -, lost, -, rfl⟩ := writeOff_ok h
    exact .refl p
  | approve spender amount =>
    cases h
    exact .refl p
  | transfer dst amount =>
    obtain ⟨-, rfl⟩ := transferShares_ok h
    exact .refl p
  | transferFrom src dst amount =>
    obtain ⟨-, allowances, rfl⟩ := transferFrom_ok h
    exact .refl p

/-- Every step of the pool moves the requests. -/
theorem PoolStep.requests {s s' : PoolState} {a : Msg × PoolCall} (h : PoolStep s a s') :
    s.pool.RequestsMove s'.pool := by
  obtain ⟨m, c⟩ := a
  obtain ⟨-, -, hexec, -⟩ := h
  cases c with
  | vault c => exact VaultCall.exec_requests hexec
  | ledger c =>
    obtain ⟨l, -, hl⟩ := map_eq_ok.mp hexec
    rw [← hl]
    exact .refl _
  | token c =>
    obtain ⟨t, -, ht⟩ := map_eq_ok.mp hexec
    rw [← ht]
    exact .refl _
  | repay id received requested =>
    obtain ⟨⟨r, q⟩, hq, rfl⟩ := map_eq_ok.mp hexec
    obtain ⟨split, ledger, -, -, hrepay⟩ := Pool.repay_ok hq
    exact VaultCall.exec_requests (c := .onRepayment id r)
      (p := { s.pool with ledger := ledger }) hrepay

/-- In every state of every run, every request is at its floor. -/
theorem PoolReachable.atFloor {s : PoolState} (h : PoolReachable s) (id : Nat) :
    (s.pool.vault.withdrawals id).AtFloor := by
  revert id
  refine Reachable.invariant (P := fun s => ∀ id, (s.pool.vault.withdrawals id).AtFloor) ?_ ?_ h
  · intro s hinit id
    rw [hinit.2.1]
    exact ⟨fun _ => .whole rfl rfl, fun _ => rfl⟩
  · intro s a s' hs hstep id
    exact (hstep.requests id).atFloor (hs id)

/-! ### The loop -/

namespace Pool

/-- The states in which the loop of `processWithdrawals` visits a request, with `fuel` requests
left to visit. -/
def loopVisits (now : Nat) : Nat → Pool → List Pool
  | 0, _ => []
  | fuel + 1, p =>
    if p.vault.withdrawalHead < p.vault.nextWithdrawalId then
      p :: (match p.processHead now with
        | .ok (.skip q) => loopVisits now fuel q
        | .ok (.filled _ _ _ q true) => loopVisits now fuel q
        | _ => [])
    else []

/-- The ids that the loop visits. -/
def visitedIds (now fuel : Nat) (p : Pool) : List Nat :=
  (p.loopVisits now fuel).map (·.vault.withdrawalHead)

theorem loopVisits_length (now : Nat) :
    ∀ (fuel : Nat) (p : Pool), (p.loopVisits now fuel).length ≤ fuel := by
  intro fuel
  induction fuel with
  | zero => exact fun p => Nat.le_refl 0
  | succ fuel ih =>
    intro p
    unfold loopVisits
    split
    · rw [List.length_cons]
      refine Nat.succ_le_succ ?_
      split
      · exact ih _
      · exact ih _
      · exact Nat.zero_le _
    · exact Nat.zero_le _

/-- An iteration that goes on has moved the head by one and has written no other request. -/
structure Served (p p' : Pool) : Prop where
  head : p'.vault.withdrawalHead = p.vault.withdrawalHead + 1
  others : ∀ id, id ≠ p.vault.withdrawalHead →
    p'.vault.withdrawals id = p.vault.withdrawals id

variable {p p' q : Pool} {m : Msg}

theorem HeadStep.skip_served {now : Nat} (h : HeadStep now p (.skip p')) : Served p p' := by
  cases h with
  | passed => exact ⟨rfl, fun id _ => rfl⟩
  | expired => exact ⟨rfl, fun id hid => Function.update_of_ne hid _ _⟩

theorem HeadStep.whole_served {now id shares assets : Nat}
    (h : HeadStep now p (.filled id shares assets p' true)) : Served p p' := by
  cases h with
  | whole hfill => exact ⟨rfl, fun id hid => Function.update_of_ne hid _ _⟩

theorem HeadStep.part_others {now id shares assets : Nat}
    (h : HeadStep now p (.filled id shares assets p' false)) {i : Nat}
    (hi : i ≠ p.vault.withdrawalHead) : p'.vault.withdrawals i = p.vault.withdrawals i := by
  cases h with
  | part hfill => exact Function.update_of_ne hi _ _

/-- The loop visits the requests from the head on, and it leaves the others alone. -/
structure LoopTrace (now fuel : Nat) (p p' : Pool) : Prop where
  ids : p.visitedIds now fuel =
    List.range' p.vault.withdrawalHead (p.loopVisits now fuel).length
  others : ∀ id, id ∉ p.visitedIds now fuel → p'.vault.withdrawals id = p.vault.withdrawals id

/-- An iteration that goes on puts the head in front of the trace of the rest. -/
theorem LoopTrace.cons {now fuel : Nat} (hs : Served p q) (h : LoopTrace now fuel q p')
    (hvisits : p.loopVisits now (fuel + 1) = p :: q.loopVisits now fuel) :
    LoopTrace now (fuel + 1) p p' := by
  have hids : p.visitedIds now (fuel + 1) = p.vault.withdrawalHead :: q.visitedIds now fuel := by
    show (p.loopVisits now (fuel + 1)).map _ = _
    rw [hvisits]
    rfl
  refine ⟨?_, fun id hid => ?_⟩
  · rw [hids, hvisits, h.ids, hs.head, List.length_cons, List.range'_succ]
  · rw [hids, List.mem_cons, not_or] at hid
    rw [h.others id hid.2, hs.others id hid.1]

/-- An iteration that ends the loop has visited the head only. -/
theorem LoopTrace.last {now fuel : Nat}
    (hothers : ∀ id, id ≠ p.vault.withdrawalHead →
      p'.vault.withdrawals id = p.vault.withdrawals id)
    (hvisits : p.loopVisits now (fuel + 1) = [p]) : LoopTrace now (fuel + 1) p p' := by
  have hids : p.visitedIds now (fuel + 1) = [p.vault.withdrawalHead] := by
    show (p.loopVisits now (fuel + 1)).map _ = _
    rw [hvisits]
    rfl
  refine ⟨by rw [hids, hvisits]; rfl, fun id hid => hothers id ?_⟩
  rw [hids, List.mem_singleton] at hid
  exact hid

/-- What a call of the loop visits and leaves. -/
theorem processLoop_trace {now : Nat} : ∀ {fuel : Nat} {p p' : Pool}
    {filled reserved filled' reserved' : Nat},
      processLoop now fuel p filled reserved = .ok (filled', reserved', p') →
      LoopTrace now fuel p p' := by
  intro fuel
  induction fuel with
  | zero =>
    intro p p' filled reserved filled' reserved' h
    cases h
    exact ⟨rfl, fun id _ => rfl⟩
  | succ fuel ih =>
    intro p p' filled reserved filled' reserved' h
    unfold processLoop at h
    split at h
    · rename_i hlt
      obtain ⟨o, ho, h⟩ := bind_eq_ok.mp h
      have hstep := processHead_ok ho
      have hvisits : p.loopVisits now (fuel + 1) = p :: (match (.ok o : Except Revert HeadOutcome) with
          | .ok (.skip q) => q.loopVisits now fuel
          | .ok (.filled _ _ _ q true) => q.loopVisits now fuel
          | _ => []) := by
        rw [← ho, loopVisits, if_pos hlt]
      cases o with
      | stop =>
        have hres := pure_eq_ok.mp h
        simp only [Prod.mk.injEq] at hres
        rw [← hres.2.2]
        exact .last (fun _ _ => rfl) hvisits
      | skip q => exact .cons hstep.skip_served (ih h) hvisits
      | filled id shares assets q whole =>
        obtain ⟨total, -, h⟩ := bind_eq_ok.mp h
        cases whole with
        | true => exact .cons hstep.whole_served (ih h) hvisits
        | false =>
          have hres := pure_eq_ok.mp h
          simp only [Prod.mk.injEq] at hres
          rw [← hres.2.2]
          exact .last (fun i hi => hstep.part_others hi) hvisits
    · rename_i hlt
      cases h
      have hvisits : p.loopVisits now (fuel + 1) = [] := by
        rw [loopVisits, if_neg hlt]
      exact ⟨by rw [visitedIds, hvisits]; rfl, fun id _ => rfl⟩

/-! ### One fill -/

/-- A fill of the head request: it is written to that request only as the fill says, its assets
are at least the requester's rate, rounded up, and at most the LP cash, and a fill that leaves
shares over is a proper part. -/
structure RateFill (p : Pool) (id shares assets : Nat) (p' : Pool) (whole : Bool) : Prop where
  head : id = p.vault.withdrawalHead
  written : p'.vault.withdrawals id = { p.vault.withdrawals id with
    sharesRemaining := (p.vault.withdrawals id).sharesRemaining - shares
    assetsReserved := (p.vault.withdrawals id).assetsReserved + assets }
  rate : (p.vault.withdrawals id).sharesRequested ≠ 0 ∧
    ((p.vault.withdrawals id).minAssets * shares) ⌈/⌉ (p.vault.withdrawals id).sharesRequested ≤
      assets
  cash : ∃ cash, p.lpCash = .ok cash ∧ assets ≤ cash
  full : whole = true → shares = (p.vault.withdrawals id).sharesRemaining
  part : whole = false → 0 < shares ∧ shares < (p.vault.withdrawals id).sharesRemaining ∧
    0 < assets

theorem HeadFill.rate {now shares assets : Nat} (h : HeadFill now p shares assets) :
    (p.vault.withdrawals p.vault.withdrawalHead).sharesRequested ≠ 0 ∧
    ((p.vault.withdrawals p.vault.withdrawalHead).minAssets * shares) ⌈/⌉
      (p.vault.withdrawals p.vault.withdrawalHead).sharesRequested ≤ assets := by
  obtain ⟨hne, hle⟩ := h.floor_le
  refine ⟨hne, (ceilDiv_le_iff_le_mul (Nat.pos_of_ne_zero hne)).mpr ?_⟩
  rw [Nat.mul_comm _ assets]
  exact hle

theorem processHead_rateFill {now id shares assets : Nat} {whole : Bool}
    (h : p.processHead now = .ok (.filled id shares assets p' whole)) :
    p.RateFill id shares assets p' whole := by
  cases processHead_ok h with
  | whole hfill hall =>
    exact ⟨rfl, Function.update_self .., hfill.rate, hfill.cash, fun _ => hall,
      fun hno => Bool.noConfusion hno⟩
  | part hfill hpart =>
    exact ⟨rfl, Function.update_self .., hfill.rate, hfill.cash, fun hno => Bool.noConfusion hno,
      fun _ => ⟨Nat.pos_of_ne_zero hfill.shares_ne_zero, hpart,
        Nat.pos_of_ne_zero hfill.assets_ne_zero⟩⟩

end Pool

/-- Withdrawals respect the rate floor of the requester, in every state of every run.

- A call of `processWithdrawals` visits at most `maxRequests` requests, one after the other from
  the head on, and leaves every other request as it is.
- Every fill on the way reserves at least the requester's rate, rounded up, and at most the LP
  cash, and a fill that leaves shares over is a proper part of what was left, for some assets.
- A request with nothing left that was neither cancelled nor expired has reserved its minimum,
  whatever its fills were. -/
theorem fills_at_floor {s : PoolState} (h : PoolReachable s) :
    (∀ m maxRequests filled reserved p',
      s.pool.processWithdrawals m maxRequests = .ok (filled, reserved, p') →
      (s.pool.absorbDonation.loopVisits m.now maxRequests).length ≤ maxRequests ∧
      s.pool.absorbDonation.visitedIds m.now maxRequests =
        List.range' s.pool.vault.withdrawalHead
          (s.pool.absorbDonation.loopVisits m.now maxRequests).length ∧
      (∀ id, id ∉ s.pool.absorbDonation.visitedIds m.now maxRequests →
        p'.vault.withdrawals id = s.pool.vault.withdrawals id) ∧
      ∀ q ∈ s.pool.absorbDonation.loopVisits m.now maxRequests,
        ∀ id shares assets q' whole,
          q.processHead m.now = .ok (.filled id shares assets q' whole) →
          q.RateFill id shares assets q' whole) ∧
    ∀ id, (s.pool.vault.withdrawals id).sharesRemaining = 0 →
      (s.pool.vault.withdrawals id).cancelled = false →
      (s.pool.vault.withdrawals id).minAssets ≤ (s.pool.vault.withdrawals id).assetsReserved := by
  refine ⟨fun m maxRequests filled reserved p' hcall => ?_,
    fun id hleft hlive => (h.atFloor id).minAssets_le hleft hlive⟩
  obtain ⟨-, hloop⟩ := Pool.processWithdrawals_ok hcall
  rw [Pool.absorbDonation_eq]
  have htrace := Pool.processLoop_trace hloop
  exact ⟨Pool.loopVisits_length _ _ _, htrace.ids, htrace.others,
    fun q _ id shares assets q' whole hfill => Pool.processHead_rateFill hfill⟩

/-- A request for 8000 shares with a minimum of 7. The vault has 2 to pay at first, so the request
is filled in two parts, and with nothing left it has reserved at least its minimum. -/
theorem fills_at_floor_sample :
    ∃ s, PoolReachable s ∧ (s.pool.vault.withdrawals 1).sharesRequested = 8000 ∧
      (s.pool.vault.withdrawals 1).minAssets = 7 ∧
      (s.pool.vault.withdrawals 1).minAssets ≤ (s.pool.vault.withdrawals 1).assetsReserved := by
  obtain ⟨s, hrun, hview⟩ := Sample.deployment.run_view
    ([(Sample.msg 8 10, .vault (.deposit 1000 0))] ++ Sample.drawCalls 10 998 ++
      [(Sample.msg 8 11, .vault (.requestWithdrawal 8000 7)),
        (Sample.msg 7 12, .vault (.processWithdrawals 10)),
        (Sample.msg 9 13, .vault (.deposit 8 0)),
        (Sample.msg 7 14, .vault (.processWithdrawals 10))])
    (fun s =>
      ((s.pool.vault.withdrawals 1).sharesRequested, (s.pool.vault.withdrawals 1).minAssets,
        (s.pool.vault.withdrawals 1).sharesRemaining, (s.pool.vault.withdrawals 1).cancelled))
    (v := (8000, 7, 0, false)) (by decide +kernel)
  simp only [Prod.mk.injEq] at hview
  obtain ⟨hrequested, hminimum, hleft, hlive⟩ := hview
  have hreach := PoolState.run_reachable hrun Sample.deployment_initial
  exact ⟨s, hreach, hrequested, hminimum, (fills_at_floor hreach).2 1 hleft hlive⟩

end Rackline
