import Rackline.Proofs.EmittedLogs
import Rackline.Proofs.EconomicKeys

/-!
# `Rackline.Proofs.NotedLogs`: what a receiver relies on in a log

Next to the amounts, a receiver of the logs checks who is paid, in which token, and which payout a
cancellation is about. What the escrow emits passes these checks (`Noted`): a recognition names the
escrow as the payee and an amount that is not zero, all logs of an obligation name one token, and the
cancellation of a payout comes after the payout. No two facts have one label.
-/

set_option autoImplicit false

namespace Rackline

open Evm Transition

/-- The payee and the amount of a recognition. -/
def SourceEvent.recognition : SourceEvent → Option (Address × Nat)
  | .obligationRecognized _ _ _ _ payee amount _ _ => some (payee, amount)
  | .obligationRecognizedV2 _ _ _ _ payee _ amount _ _ => some (payee, amount)
  | _ => none

/-- The token that a log names for an obligation. -/
def SourceEvent.tokenOf : SourceEvent → Option (AccountKey × Bytes32 × Address)
  | .obligationRecognizedV2 a ref _ _ _ token _ _ _ => some (a, ref, token)
  | .payoutReceived a ref token _ _ _ => if ref = 0 then none else some (a, ref, token)
  | _ => none

namespace SourceEscrow

/-- The logs tell one story, at each of their places. -/
structure Noted (e : SourceEscrow) (logs : List SourceEvent) : Prop where
  apart : logs.Pairwise fun x y => x.label = y.label → Native.SameRecognition x y
  used : ∀ x ∈ logs, e.Used x.label
  recognitions : ∀ x ∈ logs, ∀ payee amount, x.recognition = some (payee, amount) →
    payee = e.self ∧ amount ≠ 0
  tokens : ∀ x ∈ logs, ∀ a ref token, x.tokenOf = some (a, ref, token) →
    (e.obligations a ref).status ≠ .none ∧ (e.obligations a ref).token = token
  payouts : ∀ seq, (e.payouts seq).payer ≠ 0 → ∃ token payer, SourceEvent.payoutReceived
    (e.payouts seq).accountKey (e.payouts seq).obligationRef token payer (e.payouts seq).amount seq ∈
      logs
  cancellations : ∀ p q a ref seq amount, logs = p ++ .payoutCancelled a ref seq amount :: q →
    ∃ token payer, SourceEvent.payoutReceived a ref token payer amount seq ∈ p
  counter : ∀ a, e.latestRevision a < wordSize 32

variable {m : SourceMsg} {e e' : SourceEscrow} {c : SourceCall} {events logs : List SourceEvent}
  {a : AccountKey} {ref : Bytes32} {o' : Obligation} {n : Nat}

theorem initial_noted (self owner : Address) : (SourceEscrow.initial self owner).Noted [] where
  apart := .nil
  used := fun _ hx => nomatch hx
  recognitions := fun _ hx => nomatch hx
  tokens := fun _ hx => nomatch hx
  payouts := fun _ h => absurd rfl h
  cancellations := by
    intro p q a ref seq amount h
    simp at h
  counter := fun _ => Nat.two_pow_pos 32

theorem set2_token (h : o'.token = (e.obligations a ref).token) (a' : AccountKey) (ref' : Bytes32) :
    (set2 e.obligations a ref o' a' ref').token = (e.obligations a' ref').token := by
  rw [set2_apply]
  split
  case isTrue hk => rw [h, hk.1, hk.2]
  case isFalse => rfl

/-- The token of an obligation stays. -/
theorem effect_token (h : SourceEffect m e c events e') (a : AccountKey) (ref : Bytes32)
    (hentered : (e.obligations a ref).status ≠ .none) :
    (e'.obligations a ref).token = (e.obligations a ref).token := by
  cases h with
  | quiet hc hq => rw [hq.obligations]
  | recognized a' ref' payer token amount dueAt hfree hrev hzero hword hnone =>
    have hne : ¬(a = a' ∧ ref = ref') := by
      rintro ⟨rfl, rfl⟩
      exact hentered hnone
    show (set2 e.obligations a' ref' _ a ref).token = _
    rw [set2_apply, if_neg hne]
  | assigned => exact set2_token (by rfl) a ref
  | corrected a' ref' delta reason o' openAmount' hfree hrev hcorrects =>
    exact set2_token (by rw [hcorrects.result]) a ref
  | settled a' ref' token amount measured settlementId o' hexact hfree hrev hzero hpaid h0 hsettles =>
    exact set2_token (by rw [hsettles.result]) a ref
  | unsettled seq o' htracked hfree hrev hpayer hlive h0 hunsettles =>
    exact set2_token (by rw [hunsettles.result]) a ref
  | published | reserved | settledUnnamed | unsettledUnnamed => rfl

/-- What a recognition that is emitted says. -/
theorem effect_recognition (h : SourceEffect m e c events e') : ∀ x ∈ events, ∀ payee amount,
    x.recognition = some (payee, amount) → payee = e.self ∧ amount ≠ 0 := by
  intro x hx payee amount hrecognition
  cases h with
  | quiet => cases hx
  | recognized a ref payer token amount' dueAt hfree hrev hzero =>
    simp only [List.mem_cons, List.not_mem_nil, or_false] at hx
    rcases hx with rfl | rfl
    · cases hrecognition
      exact ⟨rfl, hzero⟩
    · cases hrecognition
      exact ⟨rfl, hzero⟩
  | _ =>
    rw [List.mem_singleton.mp hx] at hrecognition
    cases hrecognition

/-- The token that an emitted log names is that of the obligation. -/
theorem effect_tokenOf (h : SourceEffect m e c events e') : ∀ x ∈ events, ∀ a ref token,
    x.tokenOf = some (a, ref, token) →
      (e'.obligations a ref).status ≠ .none ∧ (e'.obligations a ref).token = token := by
  intro x hx a ref token hnamed
  cases h with
  | quiet => cases hx
  | recognized a' ref' payer token' amount dueAt =>
    simp only [List.mem_cons, List.not_mem_nil, or_false] at hx
    rcases hx with rfl | rfl
    · cases hnamed
    · cases hnamed
      show (set2 e.obligations a ref _ a ref).status ≠ _ ∧ (set2 e.obligations a ref _ a ref).token = _
      rw [set2_self]
      exact ⟨(fun hs => nomatch hs), rfl⟩
  | settled a' ref' token' amount measured settlementId o' hexact hfree hrev hzero hpaid h0 hsettles =>
    rw [List.mem_singleton.mp hx, SourceEvent.tokenOf, if_neg h0] at hnamed
    cases hnamed
    show (set2 e.obligations a ref o' a ref).status ≠ _ ∧ (set2 e.obligations a ref o' a ref).token = _
    rw [set2_self, hsettles.result]
    refine ⟨?_, hsettles.token⟩
    show (if _ then ObligationStatus.paid else (e.obligations a ref).status) ≠ _
    split
    · exact fun hs => nomatch hs
    · rw [hsettles.opened]
      exact fun hs => nomatch hs
  | settledUnnamed =>
    rw [List.mem_singleton.mp hx, SourceEvent.tokenOf, if_pos rfl] at hnamed
    cases hnamed
  | _ =>
    rw [List.mem_singleton.mp hx] at hnamed
    cases hnamed

/-- A payout that is there was there before, or is logged now. -/
theorem effect_payouts (h : SourceEffect m e c events e') (seq : Nat)
    (hpayer : (e'.payouts seq).payer ≠ 0) :
    ((e.payouts seq).payer ≠ 0 ∧ (e'.payouts seq).accountKey = (e.payouts seq).accountKey ∧
        (e'.payouts seq).obligationRef = (e.payouts seq).obligationRef ∧
        (e'.payouts seq).amount = (e.payouts seq).amount) ∨
      ∃ token payer, SourceEvent.payoutReceived (e'.payouts seq).accountKey
        (e'.payouts seq).obligationRef token payer (e'.payouts seq).amount seq ∈ events := by
  cases h with
  | quiet hc hq =>
    rw [hq.payouts] at hpayer ⊢
    exact .inl ⟨hpayer, rfl, rfl, rfl⟩
  | settled a ref token amount measured | settledUnnamed a token amount measured =>
    by_cases hs : seq = e.settlementSeq + 1
    · subst hs
      refine .inr ⟨token, m.sender, ?_⟩
      simp [payoutAdded, moved]
    · left
      simpa [payoutAdded, moved, hs] using hpayer
  | unsettled seq' | unsettledUnnamed seq' =>
    left
    by_cases hs : seq = seq'
    · subst hs
      simpa [payoutDropped, moved] using hpayer
    · simpa [payoutDropped, moved, hs] using hpayer
  | _ => exact .inl ⟨hpayer, rfl, rfl, rfl⟩

/-- A payout is cancelled alone, and it is there. -/
theorem effect_cancellation (h : SourceEffect m e c events e') {p q : List SourceEvent} {seq n : Nat}
    (hcut : events = p ++ .payoutCancelled a ref seq n :: q) :
    p = [] ∧ (e.payouts seq).payer ≠ 0 ∧ (e.payouts seq).accountKey = a ∧
      (e.payouts seq).obligationRef = ref ∧ (e.payouts seq).amount = n := by
  have hmem : SourceEvent.payoutCancelled a ref seq n ∈ events := by
    rw [hcut]
    simp
  cases h with
  | quiet => cases hmem
  | recognized => simp at hmem
  | unsettled seq' o' htracked hfree hrev hpayer | unsettledUnnamed seq' htracked hfree hpayer =>
    cases List.mem_singleton.mp hmem
    refine ⟨?_, hpayer, rfl, rfl, rfl⟩
    have hlength := congrArg List.length hcut
    simp only [List.length_append, List.length_cons, List.length_nil] at hlength
    exact List.eq_nil_of_length_eq_zero (by omega)
  | _ => cases List.mem_singleton.mp hmem

/-- The revision of an account is a word. -/
theorem effect_counter (h : SourceEffect m e c events e') (hcounter : e.latestRevision a < wordSize 32) :
    e'.latestRevision a < wordSize 32 := by
  have hmoved : ∀ {a' : AccountKey}, e.latestRevision a' + 1 < wordSize 32 →
      Function.update e.latestRevision a' (e.latestRevision a' + 1) a < wordSize 32 := by
    intro a' hword
    by_cases ha : a = a'
    · subst ha
      rwa [Function.update_self]
    · rwa [Function.update_of_ne ha]
  cases h with
  | quiet hc hq => rwa [hq.latestRevision]
  | recognized a' ref payer token amount dueAt hfree hrev => exact hmoved hrev
  | assigned a' ref facilityKey hfree hrev => exact hmoved hrev
  | corrected a' ref delta reason o' openAmount' hfree hrev => exact hmoved hrev
  | settled a' ref token amount measured settlementId o' hexact hfree hrev => exact hmoved hrev
  | unsettled seq o' htracked hfree hrev => exact hmoved hrev
  | published | reserved | settledUnnamed | unsettledUnnamed => exact hcounter

/-- One more transaction. -/
theorem Noted.step (h : e.Noted logs) (hvacant : ∀ seq, e.settlementSeq < seq →
    (e.payouts seq).payer = 0) (heffect : SourceEffect m e c events e') :
    e'.Noted (logs ++ events) := by
  have hadv := effect_advances heffect
  constructor
  · refine List.pairwise_append.mpr ⟨h.apart, effect_pair heffect, ?_⟩
    intro x hx y hy hlabel
    exact absurd (hlabel ▸ h.used x hx) (effect_unused heffect y hy)
  · intro x hx
    rcases List.mem_append.mp hx with hx | hx
    · exact (h.used x hx).mono hadv
    · exact effect_used heffect hvacant x hx
  · intro x hx payee amount hrecognition
    rw [hadv.self]
    rcases List.mem_append.mp hx with hx | hx
    · exact h.recognitions x hx payee amount hrecognition
    · exact effect_recognition heffect x hx payee amount hrecognition
  · intro x hx a ref token hnamed
    rcases List.mem_append.mp hx with hx | hx
    · obtain ⟨hentered, htoken⟩ := h.tokens x hx a ref token hnamed
      exact ⟨(hadv.entered a ref hentered).1, (effect_token heffect a ref hentered).trans htoken⟩
    · exact effect_tokenOf heffect x hx a ref token hnamed
  · intro seq hpayer
    rcases effect_payouts heffect seq hpayer with ⟨hold, haccount, href, hamount⟩ | hnew
    · obtain ⟨token, payer, hmem⟩ := h.payouts seq hold
      rw [haccount, href, hamount]
      exact ⟨token, payer, List.mem_append_left _ hmem⟩
    · obtain ⟨token, payer, hmem⟩ := hnew
      exact ⟨token, payer, List.mem_append_right _ hmem⟩
  · intro p q a ref seq amount hcut
    rcases List.append_eq_append_iff.mp hcut with ⟨l, hp, hevents⟩ | ⟨l, hlogs, htail⟩
    · -- It is emitted now, and the payout was logged before.
      obtain ⟨rfl, hpayer, rfl, rfl, rfl⟩ := effect_cancellation heffect hevents
      rw [hp, List.append_nil]
      exact h.payouts seq hpayer
    · cases l with
      | nil =>
        obtain ⟨-, hpayer, rfl, rfl, rfl⟩ := effect_cancellation heffect (p := []) htail.symm
        rw [List.append_nil] at hlogs
        rw [← hlogs]
        exact h.payouts seq hpayer
      | cons x l =>
        rw [List.cons_append, List.cons.injEq] at htail
        obtain ⟨rfl, -⟩ := htail
        exact h.cancellations p l a ref seq amount hlogs
  · exact fun a => effect_counter heffect (h.counter a)

/-- Two facts with one label are one fact. -/
theorem Noted.unique (h : e.Noted logs) {f g : SourceEvent} (hf : f ∈ factsOf logs)
    (hg : g ∈ factsOf logs) (hlabel : f.label = g.label) : f = g := by
  obtain ⟨hf, hfact⟩ := List.mem_filter.mp hf
  obtain ⟨hg, hgact⟩ := List.mem_filter.mp hg
  obtain ⟨i, hi, rfl⟩ := List.getElem_of_mem hf
  obtain ⟨j, hj, rfl⟩ := List.getElem_of_mem hg
  have hpairs := List.pairwise_iff_getElem.mp h.apart
  have hnot : ∀ {x y : SourceEvent}, x.fact = x → y.fact = y → ¬Native.SameRecognition x y := by
    intro x y hx hy hsame
    cases hsame with
    | first => cases hy
    | second => cases hx
  have hfact := of_decide_eq_true hfact
  have hgact := of_decide_eq_true hgact
  rcases Nat.lt_trichotomy i j with hlt | rfl | hlt
  · exact absurd (hpairs i j hi hj hlt hlabel) (hnot hfact hgact)
  · rfl
  · exact absurd (hpairs j i hj hi hlt hlabel.symm) (hnot hgact hfact)

/-- No fact is stated twice. -/
theorem Noted.nodup (h : e.Noted logs) : (factsOf logs).Nodup := by
  refine List.Pairwise.imp_of_mem ?_ (h.apart.filter _)
  intro x y hx hy hpair heq
  have hxf := of_decide_eq_true (List.mem_filter.mp hx).2
  have hyf := of_decide_eq_true (List.mem_filter.mp hy).2
  cases hpair (congrArg SourceEvent.label heq) with
  | first => cases hyf
  | second => cases hxf

end SourceEscrow

end Rackline
