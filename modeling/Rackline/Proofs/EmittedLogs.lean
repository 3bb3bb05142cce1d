import Rackline.Relay
import Rackline.Proofs.OpenAmounts
import Rackline.Proofs.SourceOps

/-!
# `Rackline.Proofs.EmittedLogs`: what the logs of the escrow say of it

The facts that were logged about an obligation, read in their order, say what the escrow keeps of
it, and as many facts were logged about the obligations of an account as its latest revision counts.
A reserved checkpoint states the latest revision, which stays the latest one until the reservation
is over. `Logged` collects this, and `Logged.step` is its step lemma.

A transaction states one fact about one obligation at most (`Stated`).
-/

set_option autoImplicit false

namespace Rackline

open Evm Transition Replay

/-! ### Facts -/

/-- The facts that logs state. The second form of a recognition comes next to the first and states
the same. -/
def factsOf (l : List SourceEvent) : List SourceEvent := l.filter fun e => decide (e.fact = e)

theorem factsOf_append (l l' : List SourceEvent) : factsOf (l ++ l') = factsOf l ++ factsOf l' :=
  List.filter_append ..

/-- How many facts are about an account. -/
def countOf (a : AccountKey) (facts : List SourceEvent) : Nat := (facts.filter (·.counts a)).length

section Snoc

variable {a : AccountKey} {ref : Bytes32} {facts : List SourceEvent} {f : SourceEvent}

theorem countOf_snoc_of (h : f.counts a = true) :
    countOf a (facts ++ [f]) = countOf a facts + 1 := by
  simp [countOf, h]

theorem countOf_snoc_of_not (h : f.counts a = false) :
    countOf a (facts ++ [f]) = countOf a facts := by
  simp [countOf, h]

theorem SourceEvent.concerns_of (h : f.obligation = some (a, ref)) : f.concerns a ref = true :=
  decide_eq_true h

theorem SourceEvent.concerns_of_ne {a' : AccountKey} {ref' : Bytes32}
    (h : f.obligation = some (a, ref)) (hne : ¬(a' = a ∧ ref' = ref)) :
    f.concerns a' ref' = false := by
  refine decide_eq_false fun heq => hne ?_
  rw [h] at heq
  simp only [Option.some.injEq, Prod.mk.injEq] at heq
  exact ⟨heq.1.symm, heq.2.symm⟩

theorem SourceEvent.concerns_of_none (h : f.obligation = none) (a : AccountKey) (ref : Bytes32) :
    f.concerns a ref = false := by
  simp [concerns, h]

theorem SourceEvent.counts_of (h : f.obligation = some (a, ref)) : f.counts a = true := by
  simp [counts, h]

theorem SourceEvent.counts_of_ne {a' : AccountKey} (h : f.obligation = some (a, ref))
    (hne : a' ≠ a) : f.counts a' = false := by
  simp [counts, h, hne.symm]

theorem SourceEvent.counts_of_none (h : f.obligation = none) (a : AccountKey) :
    f.counts a = false := by
  simp [counts, h]

end Snoc

/-- What the escrow keeps of an obligation. -/
def Obligation.view (o : Obligation) : ObligationView :=
  { net := o.net, paid := o.paid, revision := o.revision, assignedTo := o.assignedTo,
    status := o.status }

/-- The facts about each obligation read as its view. -/
def ReadsAs (facts : List SourceEvent) (view : AccountKey → Bytes32 → ObligationView) : Prop :=
  ∀ a ref, readLogs (logsOf a ref facts) = some (view a ref)

section ReadsAs

variable {facts : List SourceEvent} {f : SourceEvent} {a : AccountKey} {ref : Bytes32}
  {view view' : AccountKey → Bytes32 → ObligationView}

/-- One more fact about an obligation. -/
theorem ReadsAs.snoc_of (h : ReadsAs facts view) (hf : f.obligation = some (a, ref))
    (happly : (view a ref).apply f = some (view' a ref))
    (hother : ∀ a' ref', ¬(a' = a ∧ ref' = ref) → view' a' ref' = view a' ref') :
    ReadsAs (facts ++ [f]) view' := by
  intro a' ref'
  by_cases hk : a' = a ∧ ref' = ref
  · obtain ⟨rfl, rfl⟩ := hk
    rw [logsOf_snoc_of (SourceEvent.concerns_of hf)]
    exact replay_snoc_eq_some.mpr ⟨_, h a' ref', happly⟩
  · rw [logsOf_snoc_of_not (SourceEvent.concerns_of_ne hf hk), hother a' ref' hk]
    exact h a' ref'

/-- Facts about no obligation. -/
theorem ReadsAs.append_other {more : List SourceEvent} (h : ReadsAs facts view)
    (hmore : ∀ x ∈ more, x.obligation = none) : ReadsAs (facts ++ more) view := by
  intro a ref
  have hnone : logsOf a ref more = [] := by
    refine List.filter_eq_nil_iff.mpr fun x hx => ?_
    simp [SourceEvent.concerns_of_none (hmore x hx)]
  have happend : logsOf a ref (facts ++ more) = logsOf a ref facts := by
    unfold logsOf at hnone ⊢
    rw [List.filter_append, hnone, List.append_nil]
  rw [happend]
  exact h a ref

theorem countOf_append_other {more : List SourceEvent} (hmore : ∀ x ∈ more, x.obligation = none)
    (a : AccountKey) : countOf a (facts ++ more) = countOf a facts := by
  have hnone : more.filter (·.counts a) = [] := by
    refine List.filter_eq_nil_iff.mpr fun x hx => ?_
    simp [SourceEvent.counts_of_none (hmore x hx)]
  simp [countOf, hnone]

end ReadsAs

/-! ### Transactions -/

/-- The account, the revision and the end of a reserved checkpoint. -/
def SourceEvent.reservation : SourceEvent → Option (AccountKey × Nat × Nat)
  | .sourceCheckpointV2 a _ latestRevision _ _ _ until_ => some (a, latestRevision, until_)
  | _ => none

/-- The number, the account, the reference and the amount of the settlement that a log is about. -/
def SourceEvent.settlement : SourceEvent → Option (Nat × AccountKey × Bytes32 × Nat)
  | .payoutReceived a ref _ _ amount seq => some (seq, a, ref, amount)
  | .payoutCancelled a ref seq amount => some (seq, a, ref, amount)
  | _ => none

/-- What a transaction at `now` states, and what it does to obligations and reservations. -/
inductive Stated (now : Nat) (e : SourceEscrow) (events : List SourceEvent) (e' : SourceEscrow) :
    Prop
  | moved (a : AccountKey) (ref : Bytes32) (o' : Obligation) (f : SourceEvent) :
      e.protectedUntil a ≤ now → f.obligation = some (a, ref) → f.fact = f →
      (e.obligations a ref).view.apply f = some o'.view → factsOf events = [f] →
      (∀ x ∈ events, x.fact = f ∧ x.reservation = none) →
      e'.obligations = set2 e.obligations a ref o' →
      e'.latestRevision = Function.update e.latestRevision a (e.latestRevision a + 1) →
      e'.protectedUntil = e.protectedUntil → Stated now e events e'
  | aside : (∀ x ∈ events, x.fact = x ∧ x.obligation = none ∧ x.reservation = none) →
      e'.obligations = e.obligations → e'.latestRevision = e.latestRevision →
      e'.protectedUntil = e.protectedUntil → Stated now e events e'
  | reserved (x : SourceEvent) (a : AccountKey) (until_ : Nat) :
      events = [x] → x.fact = x → x.obligation = none →
      x.reservation = some (a, e.latestRevision a, until_) → e.protectedUntil a ≤ now →
      e'.obligations = e.obligations → e'.latestRevision = e.latestRevision →
      e'.protectedUntil = Function.update e.protectedUntil a until_ → Stated now e events e'

/-- A transaction that states one fact, in one log. -/
theorem Stated.single {now : Nat} {e e' : SourceEscrow} {a : AccountKey} {ref : Bytes32}
    {o' : Obligation} {f : SourceEvent} (hfree : e.protectedUntil a ≤ now)
    (hf : f.obligation = some (a, ref)) (hfact : f.fact = f) (hreservation : f.reservation = none)
    (happly : (e.obligations a ref).view.apply f = some o'.view)
    (hobligations : e'.obligations = set2 e.obligations a ref o')
    (hrevision : e'.latestRevision = Function.update e.latestRevision a (e.latestRevision a + 1))
    (hprotected : e'.protectedUntil = e.protectedUntil) : Stated now e [f] e' := by
  refine .moved a ref o' f hfree hf hfact happly ?_ ?_ hobligations hrevision hprotected
  · simp [factsOf, hfact]
  · intro x hx
    rw [List.mem_singleton.mp hx]
    exact ⟨hfact, hreservation⟩

theorem CorrectionReason.code_eq_cancel {reason : CorrectionReason} :
    reason.code = CorrectionReason.cancel.code ↔ reason = .cancel := by
  cases reason <;> simp [CorrectionReason.code]

theorem Corrects.apply {o o' : Obligation} {a : AccountKey} {ref : Bytes32} {delta : Int}
    {reason : CorrectionReason} {openAmount openAmount' : Nat}
    (h : Corrects o delta reason openAmount o' openAmount') :
    o.view.apply (.obligationCorrected a ref delta (o.revision + 1) reason.code) =
      some o'.view := by
  rw [h.result]
  simp only [ObligationView.apply, Obligation.view, CorrectionReason.code_eq_cancel]
  exact if_pos ⟨h.opened, trivial, h.counter, h.correctable, h.cancel⟩

theorem Settles.apply {o o' : Obligation} {a : AccountKey} {ref : Bytes32} {token payer : Address}
    {amount openAmount seq : Nat} (h : Settles o token amount openAmount o') :
    o.view.apply (.payoutReceived a ref token payer amount seq) = some o'.view := by
  rw [h.result]
  exact if_pos ⟨h.opened, h.fits, h.word, h.counter⟩

theorem Unsettles.apply {o o' : Obligation} {a : AccountKey} {ref : Bytes32}
    {amount openAmount seq : Nat} (h : Unsettles o amount openAmount o')
    (hentered : o.status ≠ .none) :
    o.view.apply (.payoutCancelled a ref seq amount) = some o'.view := by
  rw [h.result]
  exact if_pos ⟨hentered, h.paid, h.counter⟩

/-- Every transaction states one fact about one obligation, or none. -/
theorem SourceEffect.stated {m : SourceMsg} {e e' : SourceEscrow} {c : SourceCall}
    {events : List SourceEvent} (h : SourceEffect m e c events e') (hsound : e.Sound) :
    Stated m.now e events e' := by
  cases h with
  | quiet hc hq =>
    exact .aside (fun x hx => nomatch hx) hq.obligations hq.latestRevision hq.protectedUntil
  | recognized a ref payer token amount dueAt hfree hrev hzero hword hnone =>
    refine .moved a ref _ (.obligationRecognized a ref m.sender payer e.self amount dueAt 1) hfree
      rfl rfl ?_ (by simp [factsOf, SourceEvent.fact]) ?_ rfl rfl rfl
    · simp [ObligationView.apply, Obligation.view, hnone]
    · intro x hx
      simp only [List.mem_cons, List.not_mem_nil, or_false] at hx
      rcases hx with rfl | rfl
      · exact ⟨rfl, rfl⟩
      · exact ⟨rfl, rfl⟩
  | assigned a ref facilityKey hfree hrev hopen hkey hword =>
    refine .single hfree rfl rfl rfl ?_ rfl rfl rfl
    exact if_pos ⟨hopen, hkey, rfl, hword⟩
  | corrected a ref delta reason o' openAmount' hfree hrev hcorrects =>
    exact .single hfree rfl rfl rfl hcorrects.apply rfl rfl rfl
  | published a hseq =>
    refine .aside ?_ rfl rfl rfl
    intro x hx
    rw [List.mem_singleton.mp hx]
    exact ⟨rfl, rfl, rfl⟩
  | reserved a until_ hfree hlate hwindow hseq =>
    exact .reserved _ a until_ rfl rfl rfl rfl hfree rfl rfl rfl
  | settled a ref token amount measured settlementId o' hexact hfree hrev hzero hpaid h0 hsettles =>
    exact .single hfree (if_neg h0) rfl rfl hsettles.apply rfl rfl rfl
  | settledUnnamed a token amount measured settlementId hexact hfree hzero hpaid =>
    refine .aside ?_ rfl rfl rfl
    intro x hx
    obtain rfl := List.mem_singleton.mp hx
    exact ⟨rfl, rfl, rfl⟩
  | unsettled seq o' htracked hfree hrev hpayer hlive h0 hunsettles =>
    -- A payout of an obligation that was never entered would have paid nothing.
    have hentered : (e.obligations (e.payouts seq).accountKey
        (e.payouts seq).obligationRef).status ≠ .none := by
      intro hnone
      have hamount := hsound.payout seq hpayer
      have hpaid := hsound.blank _ _ hnone
      have hle := hunsettles.paid
      omega
    exact .single hfree (if_neg h0) rfl rfl (hunsettles.apply hentered) rfl rfl rfl
  | unsettledUnnamed seq htracked hfree hpayer hlive h0 =>
    refine .aside ?_ rfl rfl rfl
    intro x hx
    obtain rfl := List.mem_singleton.mp hx
    exact ⟨rfl, if_pos h0, rfl⟩

/-! ### The logs -/

namespace SourceEscrow

/-- What the logs say of the escrow, at the time `now`. -/
structure Logged (now : Nat) (e : SourceEscrow) (logs : List SourceEvent) : Prop where
  views : ReadsAs (factsOf logs) fun a ref => (e.obligations a ref).view
  count : ∀ a, e.latestRevision a = countOf a (factsOf logs)
  facts : ∀ x ∈ logs, x.fact ∈ factsOf logs
  reserved : ∀ x ∈ logs, ∀ a revision until_, x.reservation = some (a, revision, until_) →
    now < until_ → until_ ≤ e.protectedUntil a ∧ e.latestRevision a = revision
  settlements : ∀ x ∈ logs, ∀ seq a ref amount, x.settlement = some (seq, a, ref, amount) →
    seq ≤ e.settlementSeq ∧ (e.payouts seq).accountKey = a ∧ (e.payouts seq).obligationRef = ref ∧
      (e.payouts seq).amount = amount
  vacant : ∀ seq, e.settlementSeq < seq → (e.payouts seq).payer = 0

variable {now : Nat} {m : SourceMsg} {e e' : SourceEscrow} {c : SourceCall}
  {events logs : List SourceEvent}

theorem initial_logged (self owner : Address) : (SourceEscrow.initial self owner).Logged 0 [] where
  views := fun _ _ => rfl
  count := fun _ => rfl
  facts := fun _ hx => nomatch hx
  reserved := fun _ hx => nomatch hx
  settlements := fun _ hx => nomatch hx
  vacant := fun _ _ => rfl

/-- Time passes. -/
theorem Logged.wait (h : e.Logged now logs) {now' : Nat} (hnow : now ≤ now') :
    e.Logged now' logs :=
  { h with
    reserved := by
      intro x hx a revision until_ hreservation huntil
      exact h.reserved x hx a revision until_ hreservation (by omega) }

theorem Logged.stated_views (h : e.Logged now logs) (hstated : Stated m.now e events e') :
    ReadsAs (factsOf (logs ++ events)) fun a ref => (e'.obligations a ref).view := by
  rw [factsOf_append]
  cases hstated with
  | moved a ref o' f hfree hf hfact happly hevents hall hobligations hrevision hprotected =>
    rw [hevents, hobligations]
    refine h.views.snoc_of hf ?_ ?_
    · rw [set2_self]
      exact happly
    · intro a' ref' hk
      rw [set2_apply, if_neg hk]
  | aside hall hobligations hrevision hprotected =>
    rw [hobligations]
    refine h.views.append_other fun x hx => ?_
    exact (hall x (List.mem_of_mem_filter hx)).2.1
  | reserved x a until_ hevents hfact hnone hreservation hfree hobligations hrevision hprotected =>
    rw [hobligations]
    refine h.views.append_other fun y hy => ?_
    have hmem := List.mem_of_mem_filter hy
    rw [hevents] at hmem
    rwa [List.mem_singleton.mp hmem]

theorem Logged.stated_count (h : e.Logged now logs) (hstated : Stated m.now e events e')
    (a : AccountKey) : e'.latestRevision a = countOf a (factsOf (logs ++ events)) := by
  rw [factsOf_append]
  cases hstated with
  | moved a' ref o' f hfree hf hfact happly hevents hall hobligations hrevision hprotected =>
    rw [hevents, hrevision]
    by_cases ha : a = a'
    · subst ha
      rw [Function.update_self, countOf_snoc_of (SourceEvent.counts_of hf), h.count]
    · rw [Function.update_of_ne ha, countOf_snoc_of_not (SourceEvent.counts_of_ne hf ha), h.count]
  | aside hall hobligations hrevision hprotected =>
    rw [hrevision, h.count]
    exact (countOf_append_other (fun x hx => (hall x (List.mem_of_mem_filter hx)).2.1) a).symm
  | reserved x a' until_ hevents hfact hnone hreservation hfree hobligations hrevision hprotected =>
    rw [hrevision, h.count]
    refine (countOf_append_other (fun y hy => ?_) a).symm
    have hmem := List.mem_of_mem_filter hy
    rw [hevents] at hmem
    rwa [List.mem_singleton.mp hmem]

/-- Every log states a fact that is among the facts. -/
theorem Stated.facts (hstated : Stated m.now e events e') :
    ∀ x ∈ events, x.fact ∈ factsOf events := by
  have hself : (∀ x ∈ events, x.fact = x) → ∀ x ∈ events, x.fact ∈ factsOf events := by
    intro hall x hx
    rw [hall x hx]
    exact List.mem_filter.mpr ⟨hx, decide_eq_true (hall x hx)⟩
  cases hstated with
  | moved a ref o' f hfree hf hfact happly hevents hall hobligations hrevision hprotected =>
    intro x hx
    rw [(hall x hx).1, hevents]
    exact List.mem_singleton.mpr rfl
  | aside hall => exact hself fun x hx => (hall x hx).1
  | reserved x a until_ hevents hfact =>
    refine hself fun y hy => ?_
    rw [hevents] at hy
    rwa [List.mem_singleton.mp hy]

theorem Logged.stated_reserved (h : e.Logged now logs) (hnow : now ≤ m.now)
    (hstated : Stated m.now e events e') : ∀ x ∈ logs ++ events, ∀ a revision until_,
      x.reservation = some (a, revision, until_) → m.now < until_ →
      until_ ≤ e'.protectedUntil a ∧ e'.latestRevision a = revision := by
  intro x hx a revision until_ hreservation huntil
  rcases List.mem_append.mp hx with hold | hnew
  · obtain ⟨hprotected, hrevision⟩ := h.reserved x hold a revision until_ hreservation (by omega)
    -- The account is reserved, so the transaction is about another one.
    cases hstated with
    | moved a' ref o' f hfree hf hfact happly hevents hall hobligations hrevision' hprotected' =>
      have hne : a ≠ a' := by
        rintro rfl
        omega
      rw [hprotected', hrevision', Function.update_of_ne hne]
      exact ⟨hprotected, hrevision⟩
    | aside hall hobligations hrevision' hprotected' =>
      rw [hprotected', hrevision']
      exact ⟨hprotected, hrevision⟩
    | reserved y a' until' hevents hfact hnone hres hfree hobligations hrevision' hprotected' =>
      have hne : a ≠ a' := by
        rintro rfl
        omega
      rw [hprotected', hrevision', Function.update_of_ne hne]
      exact ⟨hprotected, hrevision⟩
  · cases hstated with
    | moved a' ref o' f hfree hf hfact happly hevents hall hobligations hrevision' hprotected' =>
      rw [(hall x hnew).2] at hreservation
      cases hreservation
    | aside hall =>
      rw [(hall x hnew).2.2] at hreservation
      cases hreservation
    | reserved y a' until' hevents hfact hnone hres hfree hobligations hrevision' hprotected' =>
      rw [hevents] at hnew
      rw [List.mem_singleton.mp hnew, hres] at hreservation
      cases hreservation
      rw [hprotected', hrevision', Function.update_self]
      exact ⟨Nat.le_refl _, rfl⟩

/-- What a log says of a settlement stays true. -/
structure KeepsPayouts (e e' : SourceEscrow) : Prop where
  seq : e.settlementSeq ≤ e'.settlementSeq
  payouts : ∀ seq ≤ e.settlementSeq, (e'.payouts seq).accountKey = (e.payouts seq).accountKey ∧
    (e'.payouts seq).obligationRef = (e.payouts seq).obligationRef ∧
    (e'.payouts seq).amount = (e.payouts seq).amount
  vacant : (∀ seq, e.settlementSeq < seq → (e.payouts seq).payer = 0) →
    ∀ seq, e'.settlementSeq < seq → (e'.payouts seq).payer = 0

theorem KeepsPayouts.same (hseq : e'.settlementSeq = e.settlementSeq)
    (hpayouts : e'.payouts = e.payouts) : e.KeepsPayouts e' := by
  constructor
  · rw [hseq]
  · rw [hpayouts]
    exact fun _ _ => ⟨rfl, rfl, rfl⟩
  · rw [hseq, hpayouts]
    exact fun h => h

theorem KeepsPayouts.added (p : Payout) (settlementId : Bytes32) :
    e.KeepsPayouts (e.payoutAdded p settlementId) where
  seq := Nat.le_succ _
  payouts := by
    intro seq hle
    show (Function.update e.payouts (e.settlementSeq + 1) p seq).accountKey = _ ∧
      (Function.update e.payouts (e.settlementSeq + 1) p seq).obligationRef = _ ∧
      (Function.update e.payouts (e.settlementSeq + 1) p seq).amount = _
    rw [Function.update_of_ne (by omega)]
    exact ⟨rfl, rfl, rfl⟩
  vacant := by
    intro hvacant seq hlt
    show (Function.update e.payouts (e.settlementSeq + 1) p seq).payer = 0
    have hlt : e.settlementSeq + 1 < seq := hlt
    rw [Function.update_of_ne (by omega)]
    exact hvacant seq (by omega)

theorem KeepsPayouts.dropped (seq : Nat) : e.KeepsPayouts (e.payoutDropped seq) := by
  have hsame : ∀ seq',
      ((e.payoutDropped seq).payouts seq').accountKey = (e.payouts seq').accountKey ∧
      ((e.payoutDropped seq).payouts seq').obligationRef = (e.payouts seq').obligationRef ∧
      ((e.payoutDropped seq).payouts seq').amount = (e.payouts seq').amount ∧
      ((e.payoutDropped seq).payouts seq').payer = (e.payouts seq').payer := by
    intro seq'
    by_cases hs : seq' = seq
    · subst hs
      simp [payoutDropped]
    · simp [payoutDropped, hs]
  constructor
  · exact Nat.le_refl _
  · intro seq' _
    obtain ⟨ha, href, hamount, -⟩ := hsame seq'
    exact ⟨ha, href, hamount⟩
  · intro hvacant seq' hlt
    rw [(hsame seq').2.2.2]
    exact hvacant seq' hlt

/-- A move of an obligation leaves the payouts alone. -/
theorem KeepsPayouts.moved {a : AccountKey} {ref : Bytes32} {o : Obligation} {n : Nat}
    (h : (e.moved a ref o n).KeepsPayouts e') : e.KeepsPayouts e' :=
  ⟨h.seq, h.payouts, h.vacant⟩

theorem effect_keepsPayouts (h : SourceEffect m e c events e') : e.KeepsPayouts e' := by
  cases h with
  | quiet hc hq => exact .same hq.settlementSeq hq.payouts
  | settled a ref token amount measured settlementId o' =>
    exact (KeepsPayouts.added _ settlementId).moved
  | settledUnnamed a token amount measured settlementId => exact .added _ settlementId
  | unsettled seq o' => exact (KeepsPayouts.dropped seq).moved
  | unsettledUnnamed seq => exact .dropped seq
  | _ => exact .same rfl rfl

/-- What a transaction says of a settlement is so. -/
theorem effect_settlement (h : SourceEffect m e c events e')
    (hvacant : ∀ seq, e.settlementSeq < seq → (e.payouts seq).payer = 0) :
    ∀ x ∈ events, ∀ seq a ref amount, x.settlement = some (seq, a, ref, amount) →
      seq ≤ e'.settlementSeq ∧ (e'.payouts seq).accountKey = a ∧
        (e'.payouts seq).obligationRef = ref ∧ (e'.payouts seq).amount = amount := by
  have htaken : ∀ {seq : Nat}, (e.payouts seq).payer ≠ 0 → seq ≤ e.settlementSeq := by
    intro seq hpayer
    by_contra hlt
    exact hpayer (hvacant seq (by omega))
  have hkeeps := effect_keepsPayouts h
  intro x hx seq a ref amount hsettlement
  cases h with
  | quiet => cases hx
  | recognized a' ref' payer token amount' dueAt =>
    simp only [List.mem_cons, List.not_mem_nil, or_false] at hx
    rcases hx with rfl | rfl
    · cases hsettlement
    · cases hsettlement
  | assigned | corrected | published | reserved =>
    rw [List.mem_singleton.mp hx] at hsettlement
    cases hsettlement
  | settled | settledUnnamed =>
    rw [List.mem_singleton.mp hx] at hsettlement
    cases hsettlement
    refine ⟨Nat.le_refl _, ?_⟩
    simp [payoutAdded, moved]
  | unsettled seq' o' htracked hfree hrev hpayer | unsettledUnnamed seq' htracked hfree hpayer =>
    rw [List.mem_singleton.mp hx] at hsettlement
    cases hsettlement
    have hle := htaken hpayer
    exact ⟨Nat.le_trans hle hkeeps.seq, hkeeps.payouts _ hle⟩

/-- One more transaction. -/
theorem Logged.step (h : e.Logged now logs) (hnow : now ≤ m.now) (hsound : e.Sound)
    (heffect : SourceEffect m e c events e') : e'.Logged m.now (logs ++ events) := by
  have hstated := heffect.stated hsound
  have hkeeps := effect_keepsPayouts heffect
  refine ⟨h.stated_views hstated, h.stated_count hstated, ?_, h.stated_reserved hnow hstated, ?_,
    hkeeps.vacant h.vacant⟩
  · intro x hx
    rw [factsOf_append]
    rcases List.mem_append.mp hx with hold | hnew
    · exact List.mem_append_left _ (h.facts x hold)
    · exact List.mem_append_right _ (Stated.facts hstated x hnew)
  · intro x hx seq a ref amount hsettlement
    rcases List.mem_append.mp hx with hold | hnew
    · obtain ⟨hle, ha, href, hamount⟩ := h.settlements x hold seq a ref amount hsettlement
      obtain ⟨ha', href', hamount'⟩ := hkeeps.payouts seq hle
      exact ⟨Nat.le_trans hle hkeeps.seq, ha'.trans ha, href'.trans href, hamount'.trans hamount⟩
    · exact effect_settlement heffect h.vacant x hnew seq a ref amount hsettlement

end SourceEscrow

end Rackline
