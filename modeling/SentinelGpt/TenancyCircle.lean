import SentinelGpt.TransactionEnds
import SentinelGpt.TenancyRequests

/-! The boundary of an organization: who can come to be a member or an admin of it, whose
requests change what is its own, and what everyone else is answered. -/
namespace SentinelGpt.Tenancy
open ReadCommitted TargetPages

abbrev Log := List (Event Store Write Site)

/- Those who may come to be members of an organization, and its admins among them. -/
structure Circle where
  organizationId : Nat
  members : Nat → Prop
  admins : Nat → Prop
  within : ∀ user, admins user → members user

inductive Subject where
  | nothing
  | members (organizationId : Nat)
  | admins (organizationId : Nat)
  | owner (organizationId : Option Nat)
  | target (id : Nat)
  | attestation (id : Nat)
  deriving DecidableEq, Repr

def Request.subject : Request → Subject
  | .createOrganization _ => .nothing
  | .getOrganization organizationId | .listMembers organizationId => .members organizationId
  | .addMember organizationId _ _ | .changeRole organizationId _ _ | .removeMember organizationId _ =>
      .admins organizationId
  | .createTarget _ _ ownerOrganizationId => .owner ownerOrganizationId
  | .getTarget id | .updateTarget id _ | .deleteTarget id | .createAttestation id _ _
  | .listAttestations id => .target id
  | .revokeAttestation id _ => .attestation id

def Subject.refusals : Subject → List PyError
  | .nothing => []
  | .members _ | .target _ | .attestation _ => [.notFoundError]
  | .admins _ => [forbiddenError]
  | .owner _ => [forbiddenError, invalidTargetError, .valueError]

def Call.plain (call : Call) (e : PyError) : Prop :=
  e ∈ call.asked.subject.refusals ∨ e = .notAuthenticatedError ∨ ∃ site, call.env.fault site = some e

structure Kept (before after : Store) : Prop where
  targets : ∀ id t, before.target? id = some t → ∃ t', after.target? id = some t' ∧
    t'.ownerOrganizationId = t.ownerOrganizationId ∧ t'.ownerUserId = t.ownerUserId
  attestations : ∀ id a, before.attestation? id = some a → ∃ a', after.attestation? id = some a' ∧
    a'.targetId = a.targetId

namespace Circle
variable (circle : Circle)

structure Holds (db : Store) : Prop where
  founded : (db.organization? circle.organizationId).isSome = true
  members : ∀ m ∈ db.memberships, m.organizationId = circle.organizationId → circle.members m.userId
  admins : ∀ m ∈ db.memberships, m.organizationId = circle.organizationId → m.role = .admin →
    circle.admins m.userId
  owners : ∀ t ∈ db.targets, t.ownerOrganizationId.isSome = true → t.ownerUserId = none

/- What the admins of the circle may ask, for it to stay closed; all others may ask anything. -/
def Keeps (user : Nat) : Request → Prop
  | .addMember organizationId userId role => organizationId = circle.organizationId → circle.admins user →
      circle.members userId ∧ (role = .admin → circle.admins userId)
  | .changeRole organizationId userId role => organizationId = circle.organizationId → circle.admins user →
      role = .admin → circle.admins userId
  | _ => True

def admits : Write → Prop
  | .insertMembership row => row.organizationId = circle.organizationId →
      circle.members row.userId ∧ (row.role = .admin → circle.admins row.userId)
  | .updateMembership row role => row.organizationId = circle.organizationId → role = .admin →
      circle.admins row.userId
  | .insertTarget row => row.ownerOrganizationId.isSome = true → row.ownerUserId = none
  | _ => True

structure MaySee (user : Nat) (t : RegisteredTarget) : Prop where
  member : t.ownerOrganizationId = some circle.organizationId → circle.members user
  owner : t.ownerOrganizationId = none → t.ownerUserId = some user

/- The writes a user is entitled to in a state. -/
def entitles (user : Nat) (db : Store) : Write → Prop
  | .insertMembership row | .updateMembership row _ | .deleteMembership row =>
      row.organizationId = circle.organizationId → circle.admins user
  | .insertTarget row => circle.MaySee user row
  | .updateTarget id _ => ∀ t, db.target? id = some t → circle.MaySee user t
  | .insertAttestation row => row.createdByUserId = some user ∧
      ∀ t, db.target? row.targetId = some t → circle.MaySee user t
  | .updateAttestation id _ _ => ∀ a t, db.attestation? id = some a → db.target? a.targetId = some t →
      circle.MaySee user t
  | .insertOrganization row => row.id ≠ circle.organizationId
  | .insertAudit _ => True

def serves (user : Nat) (db : Store) : Subject → Prop
  | .nothing => True
  | .members organizationId => organizationId = circle.organizationId → circle.members user
  | .admins organizationId => organizationId = circle.organizationId → circle.admins user
  | .owner organizationId => organizationId = some circle.organizationId → circle.members user
  | .target id => ∀ t, db.target? id = some t → circle.MaySee user t
  | .attestation id => ∀ a t, db.attestation? id = some a → db.target? a.targetId = some t →
      circle.MaySee user t

end Circle

section Writes
variable {circle : Circle}

theorem holdsEffect (db : Store) (w : Write) (allowed : circle.admits w) (holds : circle.Holds db) :
    circle.Holds (w.effect db) := by
  obtain ⟨founded, members, admins, owners⟩ := holds
  cases w with
  | insertOrganization row =>
    refine ⟨?_, members, admins, owners⟩
    simp [Write.effect, Store.organization?, List.find?_append] at founded ⊢
    exact .inl founded
  | insertMembership row =>
    constructor
    · exact founded
    · intro m member inside
      rcases List.mem_append.mp member with old | new
      · exact members m old inside
      · cases List.mem_singleton.mp new
        exact (allowed inside).1
    · intro m member inside role
      rcases List.mem_append.mp member with old | new
      · exact admins m old inside role
      · cases List.mem_singleton.mp new
        exact (allowed inside).2 role
    · exact owners
  | updateMembership row role =>
    constructor
    · exact founded
    · intro m member inside
      obtain ⟨old, there, same⟩ := List.mem_map.mp member
      split at same
      · subst same
        exact members old there inside
      · subst same
        exact members old there inside
    · intro m member inside admin
      obtain ⟨old, there, same⟩ := List.mem_map.mp member
      split at same
      · rename_i matched
        subst same
        simp only [Membership.same, Bool.and_eq_true, beq_iff_eq] at matched
        rw [matched.2]
        exact allowed (matched.1.2.symm.trans inside) admin
      · subst same
        exact admins old there inside admin
    · exact owners
  | deleteMembership row =>
    constructor
    · exact founded
    · exact fun m member => members m (List.mem_filter.mp member).1
    · exact fun m member => admins m (List.mem_filter.mp member).1
    · exact owners
  | insertTarget row =>
    refine ⟨founded, members, admins, ?_⟩
    intro t member owned
    rcases List.mem_append.mp member with old | new
    · exact owners t old owned
    · cases List.mem_singleton.mp new
      exact allowed owned
  | updateTarget id isArchived =>
    refine ⟨founded, members, admins, ?_⟩
    intro t member owned
    obtain ⟨old, there, same⟩ := List.mem_map.mp member
    split at same
    · subst same
      exact owners old there owned
    · subst same
      exact owners old there owned
  | insertAttestation row => exact ⟨founded, members, admins, owners⟩
  | updateAttestation id revokedAt revokedReason => exact ⟨founded, members, admins, owners⟩
  | insertAudit row => exact ⟨founded, members, admins, owners⟩

theorem holdsView {db : Store} {ws : List Write} (allowed : ∀ w ∈ ws, circle.admits w)
    (holds : circle.Holds db) : circle.Holds (view Write.effect db ws) :=
  viewKeeps (R := rows) holdsEffect allowed holds

namespace Kept

theorem refl (db : Store) : Kept db db :=
  ⟨fun _ t found => ⟨t, found, rfl, rfl⟩, fun _ a found => ⟨a, found, rfl⟩⟩

theorem trans {first second third : Store} (earlier : Kept first second) (later : Kept second third) :
    Kept first third := by
  constructor
  · intro id t found
    obtain ⟨t', found', organization, user⟩ := earlier.targets id t found
    obtain ⟨t'', found'', organization', user'⟩ := later.targets id t' found'
    exact ⟨t'', found'', organization'.trans organization, user'.trans user⟩
  · intro id a found
    obtain ⟨a', found', same⟩ := earlier.attestations id a found
    obtain ⟨a'', found'', same'⟩ := later.attestations id a' found'
    exact ⟨a'', found'', same'.trans same⟩

theorem effect (db : Store) (w : Write) : Kept db (w.effect db) := by
  have same := refl db
  cases w with
  | insertTarget row =>
    refine ⟨?_, same.attestations⟩
    intro id t found
    exact ⟨t, by simp only [Write.effect, Store.target?, List.find?_append]; rw [Store.target?] at found
                 rw [found, Option.some_or], rfl, rfl⟩
  | updateTarget id isArchived =>
    refine ⟨?_, same.attestations⟩
    intro other t found
    have moved := findUpdateRow (fun t : RegisteredTarget => t.id) id (RegisteredTarget.archived isArchived)
      (fun _ => rfl) db.targets other
    rw [Store.target?] at found
    rw [found, Option.map_some] at moved
    refine ⟨_, moved, ?_⟩
    split <;> exact ⟨rfl, rfl⟩
  | insertAttestation row =>
    refine ⟨same.targets, ?_⟩
    intro id a found
    exact ⟨a, by simp only [Write.effect, Store.attestation?, List.find?_append]; rw [Store.attestation?] at found
                 rw [found, Option.some_or], rfl⟩
  | updateAttestation id revokedAt revokedReason =>
    refine ⟨same.targets, ?_⟩
    intro other a found
    have moved := findUpdateRow Attestation.id id (Attestation.revoked revokedAt revokedReason)
      (fun _ => rfl) db.attestations other
    rw [Store.attestation?] at found
    rw [found, Option.map_some] at moved
    refine ⟨_, moved, ?_⟩
    split <;> rfl
  | insertOrganization row => exact ⟨same.targets, same.attestations⟩
  | insertMembership row => exact ⟨same.targets, same.attestations⟩
  | updateMembership row role => exact ⟨same.targets, same.attestations⟩
  | deleteMembership row => exact ⟨same.targets, same.attestations⟩
  | insertAudit row => exact ⟨same.targets, same.attestations⟩

theorem view (db : Store) (ws : List Write) : Kept db (view Write.effect db ws) := by
  induction ws generalizing db with
  | nil => exact refl db
  | cons w rest ih => exact (effect db w).trans (ih _)

end Kept

theorem mayTransfer {user id : Nat} {before after : Store} {target t : RegisteredTarget} (kept : Kept before after)
    (found : before.target? id = some target) (may : circle.MaySee user target)
    (here : after.target? id = some t) : circle.MaySee user t := by
  obtain ⟨t', there, organization, owner⟩ := kept.targets id target found
  rw [here] at there
  cases there
  constructor
  · exact fun inside => may.member (organization.symm.trans inside)
  · exact fun alone => owner.trans (may.owner (organization.symm.trans alone))

theorem memberHeld {db : Store} {user organizationId : Nat} (holds : circle.Holds db)
    (member : db.isMember user organizationId = true) (inside : organizationId = circle.organizationId) :
    circle.members user := by
  obtain ⟨m, found⟩ := Option.isSome_iff_exists.mp member
  have named := List.find?_some found
  simp only [Bool.and_eq_true, beq_iff_eq] at named
  exact named.2 ▸ holds.members m (List.mem_of_find?_eq_some found) (named.1.trans inside)

theorem adminHeld {db : Store} {user organizationId : Nat} (holds : circle.Holds db)
    (admin : db.isAdmin user organizationId = true) (inside : organizationId = circle.organizationId) :
    circle.admins user := by
  obtain ⟨m, found, role⟩ := (Option.any_eq_true _ _).mp admin
  have named := List.find?_some found
  simp only [Bool.and_eq_true, beq_iff_eq] at named role
  exact named.2 ▸ holds.admins m (List.mem_of_find?_eq_some found) (named.1.trans inside) role

end Writes

end SentinelGpt.Tenancy
