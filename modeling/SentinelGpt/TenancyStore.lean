import SentinelGpt.RefreshSessions
import SentinelGpt.TargetPages

/-! The tables behind organizations, targets and attestations, and the effect of the
statements of their requests. -/
namespace SentinelGpt.Tenancy
open ReadCommitted

inductive Role where
  | admin
  | member
  deriving DecidableEq, Repr

def Role.text : Role → PyStr
  | .admin => py "ADMIN"
  | .member => py "MEMBER"

structure Organization where
  id : Nat
  name : PyStr
  createdAt : Time
  deriving DecidableEq, Repr

structure Membership where
  id : Nat
  organizationId : Nat
  userId : Nat
  role : Role
  createdAt : Time
  deriving DecidableEq, Repr

structure RegisteredTarget extends Target where
  createdAt : Time
  deriving DecidableEq, Repr

/- Of the times a client sends only their instants are stored. -/
structure Attestation where
  id : Nat
  targetId : Nat
  methodId : Nat
  status : AttestationStatus
  evidenceFileRef : Option PyStr
  expiresAt : Option Int
  createdByUserId : Option Nat
  revokedAt : Option Time
  revokedReason : Option PyStr
  createdAt : Time
  deriving DecidableEq, Repr

structure AuditRow where
  actorUserId : Option Nat
  actionCode : PyStr
  entityType : PyStr
  entityId : Nat
  metadataJson : List (PyStr × Option PyStr)
  occurredAt : Time
  deriving DecidableEq, Repr

structure Store where
  users : List User
  organizations : List Organization
  memberships : List Membership
  targets : List RegisteredTarget
  attestations : List Attestation
  auditLog : List AuditRow
  deriving Repr

def attestationMethods : List (Nat × PyStr) := [(1, py "SELF_ATTESTATION")]

namespace Store
variable (db : Store)

def user? (id : Nat) : Option User := db.users.find? fun u => u.id == id

def organization? (id : Nat) : Option Organization := db.organizations.find? fun o => o.id == id

def target? (id : Nat) : Option RegisteredTarget := db.targets.find? fun t => t.id == id

def attestation? (id : Nat) : Option Attestation := db.attestations.find? fun a => a.id == id

/-! The queries of `MembershipRepository`. -/

def getMembership (organizationId userId : Nat) : Option Membership :=
  db.memberships.find? fun m => m.organizationId == organizationId && m.userId == userId

def isMember (userId organizationId : Nat) : Bool := (db.getMembership organizationId userId).isSome

def isAdmin (userId organizationId : Nat) : Bool :=
  (db.getMembership organizationId userId).any fun m => m.role == .admin

def listMembers (organizationId : Nat) : List Membership :=
  (db.memberships.filter fun m => m.organizationId == organizationId).insertionSort
    fun a b => a.createdAt ≤ b.createdAt

/-! Those of `TargetRepository` and `AttestationRepository`. -/

def ownedAt (ownerOrganizationId ownerUserId : Option Nat) (normalizedUrl : PyStr) :
    List RegisteredTarget :=
  db.targets.filter fun t => t.normalizedUrl == normalizedUrl &&
    t.ownerOrganizationId == ownerOrganizationId && t.ownerUserId == ownerUserId

def attestationsOf (targetId : Nat) : List Attestation :=
  KeysetPages.ordered Attestation.createdAt (db.attestations.filter fun a => a.targetId == targetId)

/-! What the constraints of the tables refuse. -/

def refusesOrganization (row : Organization) : Bool := (db.organization? row.id).isSome

def refusesMembership (row : Membership) : Bool :=
  (db.memberships.any fun m => m.id == row.id) || db.isMember row.userId row.organizationId ||
    (db.organization? row.organizationId).isNone || (db.user? row.userId).isNone

/- An owner that is missing counts as one value in the index of the owners. -/
def refusesTarget (row : RegisteredTarget) : Bool :=
  (db.target? row.id).isSome ||
    !(db.ownedAt row.ownerOrganizationId row.ownerUserId row.normalizedUrl).isEmpty ||
    row.ownerOrganizationId.isNone == row.ownerUserId.isNone ||
    (row.ownerOrganizationId.any fun id => (db.organization? id).isNone) ||
    row.ownerUserId.any fun id => (db.user? id).isNone

def refusesAttestation (row : Attestation) : Bool :=
  (db.attestation? row.id).isSome || (db.target? row.targetId).isNone ||
    row.createdByUserId.any fun id => (db.user? id).isNone

end Store

/- A row keeps its id, its organization and its user, so that a statement that names a
row it has read by its id names all three. -/
def Membership.same (row m : Membership) : Bool :=
  m.id == row.id && m.organizationId == row.organizationId && m.userId == row.userId

def Store.holds (db : Store) (row : Membership) : Bool := db.memberships.any row.same

inductive Write where
  | insertOrganization (row : Organization)
  | insertMembership (row : Membership)
  | updateMembership (row : Membership) (role : Role)
  | deleteMembership (row : Membership)
  | insertTarget (row : RegisteredTarget)
  | updateTarget (id : Nat) (isArchived : Bool)
  | insertAttestation (row : Attestation)
  | updateAttestation (id : Nat) (revokedAt : Time) (revokedReason : Option PyStr)
  | insertAudit (row : AuditRow)
  deriving DecidableEq, Repr

inductive RowKey where
  | organization (id : Nat)
  | membership (id : Nat)
  | seat (organizationId userId : Nat)
  | target (id : Nat)
  | url (ownerOrganizationId ownerUserId : Option Nat) (normalizedUrl : PyStr)
  | attestation (id : Nat)
  deriving DecidableEq, Repr

def RegisteredTarget.archived (isArchived : Bool) (row : RegisteredTarget) : RegisteredTarget :=
  { row with isArchived := isArchived }

/- A reason that was there already is not written again. -/
def Attestation.revoked (revokedAt : Time) (revokedReason : Option PyStr) (row : Attestation) : Attestation :=
  { row with status := .revoked, revokedAt := some revokedAt, revokedReason := revokedReason <|> row.revokedReason }

def Write.effect (db : Store) : Write → Store
  | .insertOrganization row => { db with organizations := db.organizations ++ [row] }
  | .insertMembership row => { db with memberships := db.memberships ++ [row] }
  | .updateMembership row role =>
      { db with memberships := db.memberships.map fun m => if row.same m then { m with role := role } else m }
  | .deleteMembership row => { db with memberships := db.memberships.filter fun m => !row.same m }
  | .insertTarget row => { db with targets := db.targets ++ [row] }
  | .updateTarget id isArchived =>
      { db with targets := updateRow (fun t => t.id) id (RegisteredTarget.archived isArchived) db.targets }
  | .insertAttestation row => { db with attestations := db.attestations ++ [row] }
  | .updateAttestation id revokedAt revokedReason =>
      let revoked := Attestation.revoked revokedAt revokedReason
      { db with attestations := updateRow Attestation.id id revoked db.attestations }
  | .insertAudit row => { db with auditLog := db.auditLog ++ [row] }

/- A row that is inserted or deleted holds its entries of the unique indexes. -/
def Write.locks : Write → List RowKey
  | .insertOrganization row => [.organization row.id]
  | .insertMembership row => [.membership row.id, .seat row.organizationId row.userId]
  | .updateMembership row _ => [.membership row.id]
  | .deleteMembership row => [.membership row.id, .seat row.organizationId row.userId]
  | .insertTarget row => [.target row.id, .url row.ownerOrganizationId row.ownerUserId row.normalizedUrl]
  | .updateTarget id _ => [.target id]
  | .insertAttestation row => [.attestation row.id]
  | .updateAttestation id _ _ => [.attestation id]
  | .insertAudit _ => []

def rows : Rows Store Write RowKey := ⟨Write.effect, Write.locks⟩

end SentinelGpt.Tenancy
