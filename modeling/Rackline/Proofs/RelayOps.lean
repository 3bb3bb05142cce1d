import Rackline.Relay
import Rackline.Proofs.ReceivableOps
import Rackline.Proofs.SourceOps

/-!
# `Rackline.Proofs.RelayOps`: what a step of the two chains does

`RelayStep.effect` sorts the steps of the two chains. A transaction of the escrow moves the escrow
and adds its logs. An ingestion takes one of the logs into the book. The book can also be
configured, which takes no log. A call that reverts lets time pass.
-/

set_option autoImplicit false

namespace Rackline

open Evm Transition

/-- The calls of the book that ingest no log. -/
inductive Configured (facilityKey : FacilityId → Bytes32) (b : ReceivableBook) :
    ReceivableBook → Prop
  | disputed (id : ReceivableId) (disputed : Bool) : (b.receivables id).state ≠ .none →
      Configured facilityKey b { b with
        receivables := Function.update b.receivables id
          { b.receivables id with disputed := disputed } }
  | registered (facilityId : FacilityId) (f : BookFacility) :
      (b.facilities facilityId).exists_ = false → f.exists_ = true →
      Configured facilityKey b { b with
        facilities := Function.update b.facilities facilityId f
        facilityByKey := Function.update b.facilityByKey (facilityKey facilityId) facilityId }

/-- What a transaction on either chain does. -/
inductive RelayEffect (facilityKey : FacilityId → Bytes32) (m : Msg) (s : Relay) :
    RelayCall → Relay → Prop
  | waited (call : RelayCall) : RelayEffect facilityKey m s call { s with now := m.now }
  | emitted (c : SourceCall) (events : List SourceEvent) (e' : SourceEscrow) :
      SourceEffect ⟨m.sender, m.now⟩ s.escrow c events e' →
      RelayEffect facilityKey m s (.source c) { s with
        now := m.now
        escrow := e'
        logs := s.logs ++ events }
  | ingested (reg : Providers) (P : ProviderId) (log : Nat) (x : SourceEvent) (c : ReceivableClaim)
      (d' : Destination) :
      s.logs[log]? = some x → s.destination.ingest m reg s.escrow.self P log x c = .ok d' →
      RelayEffect facilityKey m s (.ingest reg P log c) { s with
        now := m.now
        destination := d'
        ingested := Function.update s.ingested P (s.ingested P ++ [x.fact]) }
  | configured (call : RelayCall) (b' : ReceivableBook) : Configured facilityKey s.book b' →
      RelayEffect facilityKey m s call { s with
        now := m.now
        destination := { s.destination with book := b' } }

theorem Destination.registerFacility_configured {facilityKey : FacilityId → Bytes32} {m : Msg}
    {d d' : Destination} {reg : Providers} {facilityId : FacilityId} {borrowerId : Bytes32}
    {providerId : ProviderId} {sourceAsset : AssetRef}
    (h : d.call facilityKey m (.registerFacility reg facilityId borrowerId providerId sourceAsset)
      = .ok d') : ∃ b', Configured facilityKey d.book b' ∧ d' = { d with book := b' } := by
  obtain ⟨b, hok, rfl⟩ := map_eq_ok.mp h
  simp only [ReceivableBook.registerFacility, bind_eq_ok, revertIf_eq_ok, pure_eq_ok,
    exists_const] at hok
  obtain ⟨-, hexists, -, cfg, -, -, -, rfl⟩ := hok
  have hexists : (d.book.facilities facilityId).exists_ = false := by simpa using hexists
  exact ⟨_, .registered facilityId _ hexists rfl, rfl⟩

theorem Destination.setDisputed_configured {facilityKey : FacilityId → Bytes32} {m : Msg}
    {d d' : Destination} {id : ReceivableId} {disputed : Bool}
    (h : d.call facilityKey m (.setDisputed id disputed) = .ok d') :
    ∃ b', Configured facilityKey d.book b' ∧ d' = { d with book := b' } := by
  obtain ⟨b, hok, rfl⟩ := map_eq_ok.mp h
  simp only [ReceivableBook.setDisputed, bind_eq_ok, revertIf_eq_ok, pure_eq_ok,
    exists_const] at hok
  obtain ⟨-, hsome, rfl⟩ := hok
  exact ⟨_, .disputed id disputed hsome, rfl⟩

theorem RelayStep.effect {facilityKey : FacilityId → Bytes32} {s s' : Relay} {a : Msg × RelayCall}
    (h : RelayStep facilityKey s a s') : RelayEffect facilityKey a.1 s a.2 s' := by
  obtain ⟨m, call⟩ := a
  obtain ⟨-, rfl⟩ := h
  show RelayEffect facilityKey m s call { (s.call facilityKey m call).getD s with now := m.now }
  cases hcall : s.call facilityKey m call with
  | none => exact .waited call
  | some s' =>
    simp only [Option.getD_some]
    cases call with
    | source c =>
      simp only [Relay.call, Option.bind_eq_bind, Option.bind_eq_some_iff, toOption_eq_some,
        Prod.exists, Option.pure_def, Option.some.injEq] at hcall
      obtain ⟨events, e', hok, rfl⟩ := hcall
      exact .emitted c events e' (SourceEscrow.call_effect hok)
    | ingest reg P log claim =>
      simp only [Relay.call, Option.bind_eq_bind, Option.bind_eq_some_iff, toOption_eq_some,
        Option.pure_def, Option.some.injEq] at hcall
      obtain ⟨x, hx, d', hok, rfl⟩ := hcall
      exact .ingested reg P log x claim d' hx hok
    | registerFacility reg facilityId borrowerId providerId sourceAsset =>
      simp only [Relay.call, Option.bind_eq_bind, Option.bind_eq_some_iff, toOption_eq_some,
        Option.pure_def, Option.some.injEq] at hcall
      obtain ⟨d', hok, rfl⟩ := hcall
      obtain ⟨b', hconfigured, rfl⟩ := Destination.registerFacility_configured hok
      exact .configured _ b' hconfigured
    | setDisputed id disputed =>
      simp only [Relay.call, Option.bind_eq_bind, Option.bind_eq_some_iff, toOption_eq_some,
        Option.pure_def, Option.some.injEq] at hcall
      obtain ⟨d', hok, rfl⟩ := hcall
      obtain ⟨b', hconfigured, rfl⟩ := Destination.setDisputed_configured hok
      exact .configured _ b' hconfigured

end Rackline
