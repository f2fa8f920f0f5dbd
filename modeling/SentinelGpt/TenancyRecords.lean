import SentinelGpt.TenancyChecks

/-! What opens the gate of scanning after a run of requests: every attestation that does was
there before, or is one that a user asked for who was found to be entitled to its target. -/
namespace SentinelGpt.Tenancy
open ReadCommitted

def Attestation.terms (row : Attestation) : Attestation :=
  { row with status := .confirmed, revokedAt := none, revokedReason := none }

structure Follows (before after : Attestation) : Prop where
  terms : after.terms = before.terms
  status : after.status = before.status ∨ after.status = .revoked

namespace Follows

theorem refl (row : Attestation) : Follows row row := ⟨rfl, .inl rfl⟩

theorem trans {first second third : Attestation} (earlier : Follows first second) (later : Follows second third) :
    Follows first third := by
  refine ⟨later.terms.trans earlier.terms, ?_⟩
  rcases later.status with same | revoked
  · rw [same]
    exact earlier.status
  · exact .inr revoked

theorem revoked (revokedAt : Time) (reason : Option PyStr) (row : Attestation) :
    Follows row (row.revoked revokedAt reason) := ⟨rfl, .inr rfl⟩

theorem target {before after : Attestation} (follows : Follows before after) : after.targetId = before.targetId := by
  have same := congrArg Attestation.targetId follows.terms
  exact same

theorem expiry {before after : Attestation} (follows : Follows before after) :
    after.expiresAt = before.expiresAt := by
  have same := congrArg Attestation.expiresAt follows.terms
  exact same

theorem evidence {before after : Attestation} (follows : Follows before after) :
    after.evidenceFileRef = before.evidenceFileRef := by
  have same := congrArg Attestation.evidenceFileRef follows.terms
  exact same

theorem creator {before after : Attestation} (follows : Follows before after) :
    after.createdByUserId = before.createdByUserId := by
  have same := congrArg Attestation.createdByUserId follows.terms
  exact same

end Follows

/-! The gate of scanning. -/

def Attestation.isActive (now : Int) (row : Attestation) : Bool :=
  row.status == .confirmed && row.expiresAt.all fun expiresAt => now < expiresAt

def Store.activeFor (db : Store) (now : Int) (targetId : Nat) : List Attestation :=
  db.attestations.filter fun row => row.targetId == targetId && row.isActive now

def Store.hasActiveConfirmed (db : Store) (now : Int) (targetId : Nat) : Bool := !(db.activeFor now targetId).isEmpty

theorem attestationOrigin {ws : List Write} {db : Store} {a : Attestation}
    (member : a ∈ (view Write.effect db ws).attestations) :
    (∃ first ∈ db.attestations, Follows first a) ∨ ∃ first, .insertAttestation first ∈ ws ∧ Follows first a := by
  induction ws generalizing db with
  | nil => exact .inl ⟨a, member, Follows.refl a⟩
  | cons w rest ih =>
    rw [viewCons] at member
    rcases ih member with ⟨first, there, follows⟩ | ⟨first, there, follows⟩
    · have step : (∃ old ∈ db.attestations, Follows old first) ∨ w = .insertAttestation first := by
        cases w with
        | insertAttestation row =>
          rcases List.mem_append.mp there with old | new
          · exact .inl ⟨first, old, Follows.refl first⟩
          · cases List.mem_singleton.mp new
            exact .inr rfl
        | updateAttestation id revokedAt revokedReason =>
          obtain ⟨old, here, same⟩ := List.mem_map.mp there
          refine .inl ⟨old, here, ?_⟩
          split at same
          · exact same ▸ Follows.revoked _ _ _
          · exact same ▸ Follows.refl _
        | _ => exact .inl ⟨first, there, Follows.refl first⟩
      rcases step with ⟨old, here, before⟩ | rfl
      · exact .inl ⟨old, here, before.trans follows⟩
      · exact .inr ⟨first, List.mem_cons_self, follows⟩
    · exact .inr ⟨first, List.mem_cons_of_mem _ there, follows⟩

/- The request that an attestation comes from, and what it had found out when it wrote it. -/
structure Call.Vouches (call : Call) (user : Nat) (log : Log) (a : Attestation) : Prop where
  token : call.token = some user
  asked : ∃ expiresAt, call.asked = .createAttestation a.targetId expiresAt a.evidenceFileRef ∧
    a.expiresAt = expiresAt.bind DateTime.instant
  creator : a.createdByUserId = some user
  signed : SignedIn user log
  visible : FoundVisible user a.targetId log

def Vouched (calls : List Call) (trace : Trace) (a : Attestation) : Prop :=
  ∃ before i site v ws after first call user, trace = before ++ (i, .exec site v ws) :: after ∧
    .insertAttestation first ∈ ws ∧ Follows first a ∧ calls[i]? = some call ∧ call.Vouches user (own i before) a

theorem followsActive {first a : Attestation} {now : Int} {targetId : Nat} (follows : Follows first a)
    (active : a.targetId = targetId ∧ a.isActive now = true) : first.targetId = targetId ∧ first.isActive now = true := by
  obtain ⟨here, active⟩ := active
  simp only [Attestation.isActive, Bool.and_eq_true, beq_iff_eq] at active ⊢
  refine ⟨follows.target.symm.trans here, ?_, follows.expiry ▸ active.2⟩
  rcases follows.status with same | revoked
  · exact same.symm.trans active.1
  · rw [active.1] at revoked
    contradiction

theorem memActive {db : Store} {now : Int} {targetId : Nat} {a : Attestation} :
    a ∈ db.activeFor now targetId ↔ a ∈ db.attestations ∧ a.targetId = targetId ∧ a.isActive now = true := by
  simp only [Store.activeFor, List.mem_filter, Bool.and_eq_true, beq_iff_eq]

/- What opens the gate of a target was active from the beginning, or comes from the request of
a signed-in user who was found, in what that request had read, to be entitled to the target. -/
theorem gateVouched (calls : List Call) (store : Store) {trace : Trace} {t : System Store Write Site PyError}
    (run : Run rows (started store calls) trace t) (now : Int) (targetId : Nat)
    (opened : t.store.hasActiveConfirmed now targetId = true) :
    t.store.activeFor now targetId ≠ [] ∧ ∀ a ∈ t.store.activeFor now targetId,
      (∃ first ∈ store.activeFor now targetId, first.terms = a.terms) ∨ Vouched calls trace a := by
  constructor
  · intro none
    rw [Store.hasActiveConfirmed, none] at opened
    contradiction
  · intro a active
    obtain ⟨member, gate⟩ := memActive.mp active
    rw [storeCommitted run] at member
    rcases attestationOrigin member with ⟨first, there, follows⟩ | ⟨first, there, follows⟩
    · exact .inl ⟨first, memActive.mpr ⟨there, followsActive follows gate⟩, follows.terms.symm⟩
    · right
      obtain ⟨i, site, v, ws, event, written⟩ := committedStatement there
      obtain ⟨before, after, split⟩ := List.append_of_mem event
      obtain ⟨call, user, here, named, signed, asked, creator, visible⟩ :=
        statementChecked (checksOwed calls store run before i _ after split) written
      refine ⟨before, i, site, v, ws, after, first, call, user, split, written, follows, here, named, ?_,
        follows.creator.trans creator, signed, follows.target ▸ visible⟩
      rw [follows.target, follows.evidence, follows.expiry]
      exact asked

theorem attestedVouched : ∃ trace t, Run rows (started smallStore attestingCalls) trace t ∧
    t.store.activeFor 0 5 ≠ [] ∧ ∀ a ∈ t.store.activeFor 0 5,
      (∃ first ∈ smallStore.activeFor 0 5, first.terms = a.terms) ∨ Vouched attestingCalls trace a := by
  have replayed : ((replay rows (started smallStore attestingCalls) (List.replicate 7 (.step 0))).map
      fun (_, t) => t.store.hasActiveConfirmed 0 5) = some true := by
    decide +kernel
  obtain ⟨⟨trace, t⟩, ran, opened⟩ := Option.map_eq_some_iff.mp replayed
  exact ⟨trace, t, replayRun ran, gateVouched attestingCalls smallStore (replayRun ran) 0 5 opened⟩

end SentinelGpt.Tenancy
