import Rackline.AccountRegistry

/-!
# `Rackline.Proofs.Bindings`: one borrower per wallet and per account

A wallet should have one borrower at a time, and the two maps that hold it should agree. The links
of an account should follow each other without overlap, the view at the present time should be the
current one, and no operation should change what the views say of the past.

The account part holds in every run. The wallet part holds in the runs that link no wallet to the
borrower zero: such a link writes `_isWallet` but leaves `_walletOwner` at zero, where the wallet
counts as free.

`Sound` is the invariant. `openLink_eq_some` and `openLink_eq_none` read the end of a history.
-/

set_option autoImplicit false

namespace Rackline

open Evm Transition

/-! ### The guarantee -/

/-- The bindings of a registry that `txs` have led to. -/
structure AccountRegistry.SingleValued (r : AccountRegistry) (txs : List AccountTx) : Prop where
  oneBorrower : ∀ wallet b b', r.isWalletOf b wallet = true → r.isWalletOf b' wallet = true → b = b'
  /-- For each borrower that a wallet was ever linked to. -/
  inverse : ∀ b, (∃ tx ∈ txs, ∃ wallet, tx.call = .linkWallet b wallet) →
    ∀ wallet, r.isWalletOf b wallet = true ↔ r.borrowerOfWallet wallet = b
  /-- Each link but the last is closed, and ends before the next begins. -/
  disjoint : ∀ key, (r.accountHistory key).Pairwise fun l l' =>
    l.to_ ≠ 0 ∧ l.from_ ≤ l.to_ ∧ l.to_ ≤ l'.from_
  current : ∀ key now, (∀ tx ∈ txs, tx.msg.now ≤ now) →
    r.borrowerOfAccountAt key now = r.borrowerOfAccount key

/-- The bindings are single-valued in every state of the run, and no step changes the past. -/
def BindingsHold (txs : List AccountTx) : Prop :=
  (∀ pre post r, txs = pre ++ post → Steps BindingStep .initial pre r → r.SingleValued pre) ∧
    ∀ r tx r', StepOf BindingStep .initial txs r tx r' → ∀ key at_, at_ < tx.msg.now →
      r'.borrowerOfAccountAt key at_ = r.borrowerOfAccountAt key at_

/-! ### Histories -/

namespace AccountRegistry

variable {r : AccountRegistry} {key : AccountKey} {last : AccountLink}

theorem openLink_eq_some : r.openLink key = some last ↔
    ∃ links, r.accountHistory key = links ++ [last] ∧ last.to_ = 0 := by
  simp [openLink, Option.filter_eq_some_iff, List.getLast?_eq_some_iff]

theorem openLink_eq_none : r.openLink key = none ↔
    ∀ links l, r.accountHistory key = links ++ [l] → l.to_ ≠ 0 := by
  constructor
  · intro hnone links l hhist hopen
    have hsome : r.openLink key = some l := openLink_eq_some.mpr ⟨links, hhist, hopen⟩
    rw [hnone] at hsome
    cases hsome
  · intro hclosed
    cases hopen : r.openLink key with
    | none => rfl
    | some l =>
      obtain ⟨links, hhist, hzero⟩ := openLink_eq_some.mp hopen
      exact absurd hzero (hclosed links l hhist)

end AccountRegistry

/-- The links are in order, those before the last are closed, and nothing in them is later than
`now`. -/
structure OrderedLinks (hist : List AccountLink) (now : Nat) : Prop where
  disjoint : hist.Pairwise fun l l' => l.to_ ≠ 0 ∧ l.from_ ≤ l.to_ ∧ l.to_ ≤ l'.from_
  past : ∀ l ∈ hist, l.from_ ≤ now ∧ l.to_ ≤ now
  span : ∀ l ∈ hist, l.to_ = 0 ∨ l.from_ ≤ l.to_

namespace OrderedLinks

variable {hist links : List AccountLink} {l last : AccountLink} {now now' : Nat}

theorem nil (now : Nat) : OrderedLinks [] now := ⟨.nil, nofun, nofun⟩

theorem mono (h : OrderedLinks hist now) (hle : now ≤ now') : OrderedLinks hist now' where
  disjoint := h.disjoint
  past l hl := by
    obtain ⟨hfrom, hto⟩ := h.past l hl
    exact ⟨hfrom.trans hle, hto.trans hle⟩
  span := h.span

/-- A new link, behind one that is closed. -/
theorem link (h : OrderedLinks hist now) (hle : now ≤ now')
    (hclosed : ∀ links l, hist = links ++ [l] → l.to_ ≠ 0) (borrowerId : Bytes32) :
    OrderedLinks (hist ++ [{ borrowerId := borrowerId, from_ := now', to_ := 0 }]) now' := by
  have hends : ∀ l ∈ hist, l.to_ ≠ 0 := by
    intro l hl
    -- A link that is not the last is closed by the order.
    obtain ⟨front, back, rfl⟩ := List.append_of_mem hl
    cases back with
    | nil => exact hclosed front l rfl
    | cons l' back =>
      have hpair := (List.pairwise_append.mp h.disjoint).2.1
      exact ((List.pairwise_cons.mp hpair).1 l' List.mem_cons_self).1
  refine ⟨List.pairwise_append.mpr ⟨h.disjoint, List.pairwise_singleton _ _, ?_⟩, ?_, ?_⟩
  · intro l hl new hnew
    rw [List.mem_singleton] at hnew
    subst hnew
    have hto := (h.past l hl).2
    exact ⟨hends l hl, (h.span l hl).resolve_left (hends l hl), hto.trans hle⟩
  · intro l hl
    rcases List.mem_append.mp hl with hl | hl
    · obtain ⟨hfrom, hto⟩ := h.past l hl
      exact ⟨hfrom.trans hle, hto.trans hle⟩
    · rw [List.mem_singleton] at hl
      subst hl
      exact ⟨le_refl _, Nat.zero_le _⟩
  · intro l hl
    rcases List.mem_append.mp hl with hl | hl
    · exact h.span l hl
    · rw [List.mem_singleton] at hl
      subst hl
      exact .inl rfl

/-- The end of the last link. -/
theorem unlink (h : OrderedLinks (links ++ [last]) now) (hle : now ≤ now') :
    OrderedLinks (links ++ [{ last with to_ := now' }]) now' := by
  obtain ⟨hfront, -, hback⟩ := List.pairwise_append.mp h.disjoint
  refine ⟨List.pairwise_append.mpr ⟨hfront, List.pairwise_singleton _ _, ?_⟩, ?_, ?_⟩
  · intro l hl closed hclosed
    rw [List.mem_singleton] at hclosed
    subst hclosed
    exact hback l hl last (List.mem_singleton_self _)
  · intro l hl
    rcases List.mem_append.mp hl with hl | hl
    · obtain ⟨hfrom, hto⟩ := h.past l (List.mem_append_left _ hl)
      exact ⟨hfrom.trans hle, hto.trans hle⟩
    · rw [List.mem_singleton] at hl
      subst hl
      have hfrom := (h.past last (by simp)).1
      exact ⟨hfrom.trans hle, le_refl _⟩
  · intro l hl
    rcases List.mem_append.mp hl with hl | hl
    · exact h.span l (List.mem_append_left _ hl)
    · rw [List.mem_singleton] at hl
      subst hl
      exact .inr ((h.past last (by simp)).1.trans hle)

end OrderedLinks

/-! ### The views -/

namespace AccountRegistry

variable {r : AccountRegistry} {key : AccountKey} {last : AccountLink} {now : Nat}

/-- The loop meets the last link first. -/
theorem borrowerOfAccountAt_append {links : List AccountLink}
    (hhist : r.accountHistory key = links ++ [last]) (at_ : Nat) :
    r.borrowerOfAccountAt key at_ =
      if last.from_ ≤ at_ ∧ (last.to_ = 0 ∨ at_ < last.to_) then last.borrowerId
      else { r with accountHistory := fun _ => links }.borrowerOfAccountAt key at_ := by
  unfold borrowerOfAccountAt
  simp only [hhist, List.reverse_append, List.reverse_singleton, List.singleton_append,
    List.find?_cons]
  by_cases hcovers : last.from_ ≤ at_ ∧ (last.to_ = 0 ∨ at_ < last.to_)
  · simp [hcovers]
  · simp only [decide_eq_false hcovers, if_neg hcovers]

/-- At a time that is not before anything in the history, the view is the current one. -/
theorem borrowerOfAccountAt_now (h : OrderedLinks (r.accountHistory key) now) :
    r.borrowerOfAccountAt key now = r.borrowerOfAccount key := by
  cases hopen : r.openLink key with
  | some last =>
    obtain ⟨links, hhist, hzero⟩ := openLink_eq_some.mp hopen
    have hfrom := (h.past last (by simp [hhist])).1
    rw [borrowerOfAccountAt_append hhist, if_pos ⟨hfrom, .inl hzero⟩]
    simp [borrowerOfAccount, hopen]
  | none =>
    have hclosed := openLink_eq_none.mp hopen
    have hnone : (r.accountHistory key).reverse.find? (fun l =>
        decide (l.from_ ≤ now ∧ (l.to_ = 0 ∨ now < l.to_))) = none := by
      simp only [List.find?_eq_none, List.mem_reverse, decide_eq_true_eq]
      rintro l hl ⟨-, hcovers⟩
      have hto := (h.past l hl).2
      have hzero : l.to_ = 0 := by omega
      -- Every link is closed: the last by assumption, the others by the order.
      obtain ⟨front, back, hcut⟩ := List.append_of_mem hl
      cases back with
      | nil => exact hclosed front l hcut hzero
      | cons l' back =>
        have hpair := h.disjoint
        rw [hcut] at hpair
        have htail := (List.pairwise_append.mp hpair).2.1
        exact ((List.pairwise_cons.mp htail).1 l' List.mem_cons_self).1 hzero
    unfold borrowerOfAccountAt borrowerOfAccount
    rw [hnone, hopen]

/-! ### Steps -/

/-- What a call does to a history. -/
inductive HistoryStep (m : Msg) (key : AccountKey) (r r' : AccountRegistry) : Prop
  | same : r'.accountHistory key = r.accountHistory key → HistoryStep m key r r'
  | link (borrowerId : Bytes32) : r.openLink key = none →
      r'.accountHistory key =
        r.accountHistory key ++ [{ borrowerId := borrowerId, from_ := m.now, to_ := 0 }] →
      HistoryStep m key r r'
  | unlink (links : List AccountLink) (last : AccountLink) :
      r.accountHistory key = links ++ [last] → last.to_ = 0 →
      r'.accountHistory key = links ++ [{ last with to_ := m.now }] → HistoryStep m key r r'

end AccountRegistry

open AccountRegistry

variable {r r' : AccountRegistry} {tx : AccountTx} {txs : List AccountTx} {now : Nat}

theorem BindingStep.history (h : BindingStep r tx r') (key : AccountKey) :
    HistoryStep tx.msg key r r' := by
  obtain ⟨m, env, call⟩ := tx
  replace h : call.exec m env r = .ok r' := h
  cases call with
  | linkWallet borrowerId wallet =>
    obtain ⟨_, -, h⟩ := bind_eq_ok.mp h
    obtain ⟨_, -, h⟩ := bind_eq_ok.mp h
    obtain ⟨_, -, h⟩ := bind_eq_ok.mp h
    cases h
    exact .same rfl
  | releaseWallet wallet =>
    obtain ⟨_, -, h⟩ := bind_eq_ok.mp h
    obtain ⟨_, -, h⟩ := bind_eq_ok.mp h
    cases h
    exact .same rfl
  | linkAccount borrowerId providerId key' =>
    obtain ⟨_, -, h⟩ := bind_eq_ok.mp h
    obtain ⟨_, -, h⟩ := bind_eq_ok.mp h
    split at h
    · cases h
    · rename_i hopen
      cases h
      by_cases hkey : key = key'
      · subst hkey
        exact .link borrowerId hopen (by simp)
      · exact .same (by simp [hkey])
  | unlinkAccount key' =>
    obtain ⟨_, -, h⟩ := bind_eq_ok.mp h
    split at h
    · cases h
    · rename_i last hopen
      cases h
      by_cases hkey : key = key'
      · subst hkey
        obtain ⟨links, hhist, hzero⟩ := openLink_eq_some.mp hopen
        exact .unlink links last hhist hzero (by simp [hhist])
      · exact .same (by simp [hkey])

/-- No step changes what the view says of the past. -/
theorem BindingStep.past (h : BindingStep r tx r') (key : AccountKey) {at_ : Nat}
    (hpast : at_ < tx.msg.now) :
    r'.borrowerOfAccountAt key at_ = r.borrowerOfAccountAt key at_ := by
  cases h.history key with
  | same hsame => simp [borrowerOfAccountAt, hsame]
  | link borrowerId hopen hlink =>
    rw [borrowerOfAccountAt_append hlink, if_neg (by simp; omega)]
    simp [borrowerOfAccountAt]
  | unlink links last hhist hzero hunlink =>
    rw [borrowerOfAccountAt_append hunlink, borrowerOfAccountAt_append hhist]
    -- Up to the new end the link covers what it covered while it was open.
    have hcovers : (last.from_ ≤ at_ ∧ (tx.msg.now = 0 ∨ at_ < tx.msg.now)) ↔
        (last.from_ ≤ at_ ∧ (last.to_ = 0 ∨ at_ < last.to_)) := by
      simp [hzero, hpast]
    simp only [hcovers]
    simp [borrowerOfAccountAt]

/-- The wallets are those of their owners, and the histories are in order. -/
structure AccountRegistry.Sound (r : AccountRegistry) (now : Nat) : Prop where
  wallets : ∀ b wallet, r.isWallet b wallet = true ↔ b ≠ 0 ∧ r.walletOwner wallet = b
  history : ∀ key, OrderedLinks (r.accountHistory key) now

theorem AccountRegistry.initial_sound : AccountRegistry.initial.Sound 0 where
  wallets b wallet := by
    show false = true ↔ b ≠ 0 ∧ 0 = b
    constructor
    · exact nofun
    · rintro ⟨hb, rfl⟩
      exact absurd rfl hb
  history _ := .nil 0

/-- A step that links no wallet to the borrower zero keeps the wallets. -/
theorem BindingStep.wallets (h : BindingStep r tx r')
    (hzero : ∀ wallet, tx.call ≠ .linkWallet 0 wallet)
    (hr : ∀ b wallet, r.isWallet b wallet = true ↔ b ≠ 0 ∧ r.walletOwner wallet = b)
    (b : Bytes32) (wallet : Address) :
    r'.isWallet b wallet = true ↔ b ≠ 0 ∧ r'.walletOwner wallet = b := by
  obtain ⟨m, env, call⟩ := tx
  replace h : call.exec m env r = .ok r' := h
  cases call with
  | linkWallet borrowerId signer =>
    obtain ⟨_, -, h⟩ := bind_eq_ok.mp h
    obtain ⟨_, hfree, h⟩ := bind_eq_ok.mp h
    obtain ⟨_, -, h⟩ := bind_eq_ok.mp h
    cases h
    have hnone : r.walletOwner signer = 0 := Classical.not_not.mp (revertIf_eq_ok.mp hfree)
    have hborrower : borrowerId ≠ 0 := by
      rintro rfl
      exact hzero signer rfl
    show set2 r.isWallet borrowerId signer true b wallet = true ↔
      b ≠ 0 ∧ Function.update r.walletOwner signer borrowerId wallet = b
    rw [set2_apply]
    by_cases hwallet : wallet = signer
    · subst hwallet
      rw [Function.update_self]
      by_cases hb : b = borrowerId
      · subst hb
        simp [hborrower]
      · rw [if_neg (fun hboth => hb hboth.1), hr, hnone]
        constructor
        · rintro ⟨hne, heq⟩
          exact absurd heq.symm hne
        · rintro ⟨-, heq⟩
          exact absurd heq.symm hb
    · rw [if_neg (fun hboth => hwallet hboth.2), Function.update_of_ne hwallet]
      exact hr b wallet
  | releaseWallet signer =>
    obtain ⟨_, -, h⟩ := bind_eq_ok.mp h
    obtain ⟨_, -, h⟩ := bind_eq_ok.mp h
    cases h
    show set2 r.isWallet (r.walletOwner signer) signer false b wallet = true ↔
      b ≠ 0 ∧ Function.update r.walletOwner signer 0 wallet = b
    rw [set2_apply]
    by_cases hwallet : wallet = signer
    · subst hwallet
      rw [Function.update_self]
      have hnot : ¬(b ≠ 0 ∧ 0 = b) := fun hboth => hboth.1 hboth.2.symm
      by_cases hb : b = r.walletOwner wallet
      · rw [if_pos ⟨hb, rfl⟩]
        simp [hnot]
      · rw [if_neg (fun hboth => hb hboth.1), hr]
        constructor
        · rintro ⟨-, heq⟩
          exact absurd heq.symm hb
        · exact fun hboth => absurd hboth hnot
    · rw [if_neg (fun hboth => hwallet hboth.2), Function.update_of_ne hwallet]
      exact hr b wallet
  | linkAccount borrowerId providerId key =>
    obtain ⟨_, -, h⟩ := bind_eq_ok.mp h
    obtain ⟨_, -, h⟩ := bind_eq_ok.mp h
    split at h
    · cases h
    · cases h
      exact hr b wallet
  | unlinkAccount key =>
    obtain ⟨_, -, h⟩ := bind_eq_ok.mp h
    split at h
    · cases h
    · cases h
      exact hr b wallet

theorem BindingStep.sound (h : BindingStep r tx r') (hr : r.Sound now) (hle : now ≤ tx.msg.now)
    (hzero : ∀ wallet, tx.call ≠ .linkWallet 0 wallet) : r'.Sound tx.msg.now where
  wallets := h.wallets hzero hr.wallets
  history key := by
    have hold := hr.history key
    cases h.history key with
    | same hsame =>
      rw [hsame]
      exact hold.mono hle
    | link borrowerId hopen hlink =>
      rw [hlink]
      exact hold.link hle (openLink_eq_none.mp hopen) borrowerId
    | unlink links last hhist _ hunlink =>
      rw [hunlink]
      rw [hhist] at hold
      exact hold.unlink hle

/-! ### Runs -/

/-- The invariant at the end of a run, at every time that is not before its transactions. -/
theorem BindingStep.run_sound (hrun : Steps BindingStep .initial txs r)
    (htimes : txs.Pairwise fun tx tx' => tx.msg.now ≤ tx'.msg.now)
    (hzero : ∀ tx ∈ txs, ∀ wallet, tx.call ≠ .linkWallet 0 wallet)
    (hnow : ∀ tx ∈ txs, tx.msg.now ≤ now) : r.Sound now := by
  revert now
  refine Steps.history (P := fun txs r => (txs.Pairwise fun tx tx' => tx.msg.now ≤ tx'.msg.now) →
    (∀ tx ∈ txs, ∀ wallet, tx.call ≠ .linkWallet 0 wallet) →
    ∀ {now}, (∀ tx ∈ txs, tx.msg.now ≤ now) → r.Sound now) ?_ ?_ hrun htimes hzero
  · intro _ _ now _
    exact ⟨AccountRegistry.initial_sound.wallets, fun _ => .nil now⟩
  · intro txs r tx r' _ ih hstep htimes hzero now hnow
    obtain ⟨hfront, -, hlast⟩ := List.pairwise_append.mp htimes
    have hbefore : r.Sound tx.msg.now :=
      ih hfront (fun t ht => hzero t (List.mem_append_left _ ht))
        fun t ht => hlast t ht tx (List.mem_singleton_self _)
    have hafter := hstep.sound hbefore (le_refl _) (hzero tx (by simp))
    exact ⟨hafter.wallets, fun key => (hafter.history key).mono (hnow tx (by simp))⟩

/-- Some time is not before any of the transactions. -/
theorem AccountTx.exists_after (txs : List AccountTx) : ∃ now, ∀ tx ∈ txs, tx.msg.now ≤ now := by
  induction txs with
  | nil => exact ⟨0, nofun⟩
  | cons tx txs ih =>
    obtain ⟨now, hnow⟩ := ih
    refine ⟨max tx.msg.now now, fun t ht => ?_⟩
    rcases List.mem_cons.mp ht with rfl | ht
    · exact le_max_left _ _
    · exact (hnow t ht).trans (le_max_right _ _)

/-- In a run that links no wallet to the borrower zero, the bindings are single-valued. -/
theorem bindings_single_valued (htimes : txs.Pairwise fun tx tx' => tx.msg.now ≤ tx'.msg.now)
    (hzero : ∀ tx ∈ txs, ∀ wallet, tx.call ≠ .linkWallet 0 wallet) : BindingsHold txs := by
  constructor
  · intro pre post r hcut hrun
    subst hcut
    have hpre := (List.pairwise_append.mp htimes).1
    have hnone : ∀ tx ∈ pre, ∀ wallet, tx.call ≠ .linkWallet 0 wallet :=
      fun tx htx => hzero tx (List.mem_append_left _ htx)
    have hsound : ∀ {now}, (∀ tx ∈ pre, tx.msg.now ≤ now) → r.Sound now :=
      fun hnow => BindingStep.run_sound hrun hpre hnone hnow
    obtain ⟨last, hlast⟩ := AccountTx.exists_after pre
    replace hlast : r.Sound last := hsound hlast
    refine ⟨?_, ?_, fun key => (hlast.history key).disjoint, ?_⟩
    · intro wallet b b' hb hb'
      rw [← ((hlast.wallets b wallet).mp hb).2, ← ((hlast.wallets b' wallet).mp hb').2]
    · rintro b ⟨tx, htx, signer, hcall⟩ wallet
      have hb : b ≠ 0 := by
        rintro rfl
        exact hnone tx htx signer hcall
      show r.isWallet b wallet = true ↔ r.walletOwner wallet = b
      rw [hlast.wallets]
      simp [hb]
    · intro key now hnow
      exact borrowerOfAccountAt_now ((hsound hnow).history key)
  · intro r tx r' hstep key at_ hpast
    exact hstep.step.past key hpast

namespace Sample

/-- A transaction that the wallet 7 sends at a time, as the registrar. -/
def accountTx (now : Nat) (call : AccountCall) : AccountTx where
  msg := { sender := 7, now := now, hasRole := fun role _ => role == .registrar,
           hasCode := fun _ => false }
  env := { verifyAndConsume := fun _ _ => true, providerExists := fun _ => true }
  call := call

/-- The wallet 7 signs for the borrower zero, and then for the borrower 5. -/
def zeroLinks : List AccountTx :=
  [accountTx 10 (.linkWallet 0 7), accountTx 11 (.linkWallet 5 7)]

/-- A wallet and an account change hands, the account within one block. -/
def relinks : List AccountTx :=
  [accountTx 10 (.linkWallet 5 7), accountTx 10 (.linkAccount 5 1 3),
    accountTx 11 (.releaseWallet 7), accountTx 11 (.unlinkAccount 3),
    accountTx 11 (.linkAccount 6 1 3), accountTx 12 (.linkWallet 6 7)]

end Sample

/-- The wallet has two borrowers once it was linked to the borrower zero. -/
theorem zero_borrower_stays : ¬BindingsHold Sample.zeroLinks := by
  rintro ⟨hstates, -⟩
  obtain ⟨r, hrun, hview⟩ : ∃ r, AccountRegistry.initial.run Sample.zeroLinks = some r ∧
      (r.isWalletOf 0 7, r.isWalletOf 5 7) = (true, true) :=
    Option.map_eq_some_iff.mp (by decide +kernel)
  obtain ⟨hzero, hfive⟩ := Prod.mk.inj hview
  have hsingle := hstates _ [] r (by simp) (run_steps hrun)
  have hsame : (0 : Bytes32) = 5 := hsingle.oneBorrower 7 0 5 hzero hfive
  exact absurd hsame (by decide +kernel)

/-- Re-linked, the wallet has its new borrower, and the account its old one in the past. -/
theorem bindings_single_valued_sample : BindingsHold Sample.relinks ∧
    (AccountRegistry.initial.run Sample.relinks).map (fun r => (r.isWalletOf 5 7, r.isWalletOf 6 7,
      r.borrowerOfAccountAt 3 10, r.borrowerOfAccountAt 3 11)) = some (false, true, 5, 6) := by
  refine ⟨bindings_single_valued ?_ ?_, by decide +kernel⟩
  · simp [Sample.relinks, Sample.accountTx]
  · intro tx htx wallet hcall
    simp only [Sample.relinks, List.mem_cons, List.not_mem_nil, or_false] at htx
    rcases htx with rfl | rfl | rfl | rfl | rfl | rfl <;> cases hcall

end Rackline
