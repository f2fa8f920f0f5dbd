import SentinelGpt.TenancyStore

/-! The requests about organizations and their members, targets, and the attestations of
targets, as programs over the tables. -/
namespace SentinelGpt.Tenancy
open ReadCommitted TargetPages

inductive Site where
  | getCurrentUser
  | isAdmin
  | isMember
  | getMembership
  | getOrganization
  | listMembers
  | insertOrganization
  | insertMembership
  | updateMembership
  | deleteMembership
  | findByOwnerAndUrl
  | getTarget
  | insertTarget
  | updateTarget
  | methodId
  | methodCodeMap
  | getAttestation
  | listAttestations
  | insertAttestation
  | updateAttestation
  | audit
  | requestCommit
  deriving DecidableEq, Repr

/- What one request meets: the clock, the new ids, the failures of its statements and of
its commit (which then leaves nothing behind). -/
structure Env where
  python : Python
  now : Site → Time
  newId : Site → Nat
  fault : Site → Option PyError

abbrev Prog := Program Store Write Site PyError

def integrityError : PyError := .other (py "IntegrityError")
def staleDataError : PyError := .other (py "StaleDataError")
def multipleResultsFound : PyError := .other (py "MultipleResultsFound")
def duplicateTargetError : PyError := .other (py "DuplicateTargetError")
def invalidTargetError : PyError := .other (py "InvalidTargetError")

def refuse {α : Type} (e : PyError) : Prog α := .raise e

namespace Env
variable (env : Env) {α : Type}

def statement (site : Site) (writes : Store → List Write) (result : Store → α) : Prog α :=
  match env.fault site with
  | some e => .raise e
  | none => .exec site writes fun db => .pure (result db)

def read (site : Site) (result : Store → α) : Prog α := env.statement site (fun _ => []) result

def guarded (site : Site) (refused : Store → Bool) (e : PyError) (write : Write) : Prog Unit := do
  let failed ← env.statement site (fun db => if refused db then [] else [write]) refused
  if failed then refuse e

def insert (site : Site) (refused : Store → Bool) (write : Write) : Prog Unit :=
  env.guarded site refused integrityError write

def commit (site : Site) : Prog Unit :=
  match env.fault site with
  | some e => .raise e
  | none => .commit site (.pure ())

end Env

def record (env : Env) (user : Nat) (actionCode entityType : PyStr) (entityId : Nat)
    (metadataJson : List (PyStr × Option PyStr)) : Prog Unit :=
  env.statement .audit
    (fun _ => [.insertAudit ⟨some user, actionCode, entityType, entityId, metadataJson, env.now .audit⟩])
    fun _ => ()

/- `get_current_user`: the user of a token that is there and valid. -/
def getCurrentUser (env : Env) : Option Nat → Prog Nat
  | none => refuse .notAuthenticatedError
  | some userId => do
    let user ← env.read .getCurrentUser fun db => db.user? userId
    if user.any User.isActive then return userId else refuse .notAuthenticatedError

/-! `OrganizationService`. The details of a row are its columns. -/

def requireMember (env : Env) (user organizationId : Nat) : Prog Unit := do
  if !(← env.read .isMember fun db => db.isMember user organizationId) then refuse .notFoundError

def requireAdmin (env : Env) (user organizationId : Nat) : Prog Unit := do
  if !(← env.read .isAdmin fun db => db.isAdmin user organizationId) then refuse forbiddenError

def requireAdminAndGet (env : Env) (user organizationId memberUserId : Nat) : Prog Membership := do
  requireAdmin env user organizationId
  match ← env.read .getMembership fun db => db.getMembership organizationId memberUserId with
  | none => refuse .notFoundError
  | some membership => return membership

def createOrganization (env : Env) (user : Nat) (name : PyStr) : Prog Organization := do
  let org : Organization := ⟨env.newId .insertOrganization, name.take 255, env.now .insertOrganization⟩
  let membership : Membership :=
    ⟨env.newId .insertMembership, org.id, user, .admin, env.now .insertMembership⟩
  env.insert .insertOrganization (fun db => db.refusesOrganization org) (.insertOrganization org)
  env.insert .insertMembership (fun db => db.refusesMembership membership) (.insertMembership membership)
  return org

def getOrganization (env : Env) (user organizationId : Nat) : Prog Organization := do
  requireMember env user organizationId
  match ← env.read .getOrganization fun db => db.organization? organizationId with
  | none => refuse .notFoundError
  | some org => return org

def listMembers (env : Env) (user organizationId : Nat) : Prog (List Membership) := do
  requireMember env user organizationId
  env.read .listMembers fun db => db.listMembers organizationId

def addMember (env : Env) (user organizationId userId : Nat) (role : Role) : Prog Membership := do
  requireAdmin env user organizationId
  match ← env.read .getMembership fun db => db.getMembership organizationId userId with
  | some existing => return existing
  | none =>
    let membership : Membership :=
      ⟨env.newId .insertMembership, organizationId, userId, role, env.now .insertMembership⟩
    env.insert .insertMembership (fun db => db.refusesMembership membership) (.insertMembership membership)
    return membership

/- A role that is there already is not written, and a row that is gone is an error. -/
def flushRole (env : Env) (membership : Membership) (role : Role) : Prog Unit :=
  if membership.role = role then return ()
  else env.guarded .updateMembership (fun db => !db.holds membership) staleDataError
    (.updateMembership membership role)

def changeRole (env : Env) (user organizationId memberUserId : Nat) (role : Role) : Prog Membership := do
  let membership ← requireAdminAndGet env user organizationId memberUserId
  flushRole env membership role
  return { membership with role := role }

/- A row that is gone already is none. -/
def removeMember (env : Env) (user organizationId memberUserId : Nat) : Prog Unit := do
  let membership ← requireAdminAndGet env user organizationId memberUserId
  env.statement .deleteMembership
    (fun db => if db.holds membership then [.deleteMembership membership] else []) fun _ => ()

/-! `TargetService`. -/

def scalarOneOrNone {α : Type} : List α → Prog (Option α)
  | [] => return none
  | [row] => return some row
  | _ => refuse multipleResultsFound

def findByOwnerAndUrl (env : Env) (ownerOrganizationId ownerUserId : Option Nat) (normalizedUrl : PyStr) :
    Prog (Option RegisteredTarget) := do
  scalarOneOrNone
    (← env.read .findByOwnerAndUrl fun db => db.ownedAt ownerOrganizationId ownerUserId normalizedUrl)

def normalized (env : Env) (hostname url : PyStr) : Prog TargetNormalization.NormalizedTarget :=
  match TargetNormalization.normalizeTarget env.python hostname url with
  | .ok target => return target
  | .error (.invalidTarget _) => refuse invalidTargetError
  | .error .valueError => refuse .valueError

def newOwner (env : Env) (user : Nat) : Option Nat → Prog (Option Nat × Option Nat)
  | none => return (none, some user)
  | some organizationId => do
    if ← env.read .isMember fun db => db.isMember user organizationId then return (some organizationId, none)
    else refuse forbiddenError

def registerTarget (env : Env) (user : Nat) (hostname url : PyStr) (ownerOrganizationId : Option Nat) :
    Prog RegisteredTarget := do
  let target ← normalized env hostname url
  let (ownerOrganization, ownerUser) ← newOwner env user ownerOrganizationId
  let existing ← findByOwnerAndUrl env ownerOrganization ownerUser target.normalizedUrl
  if existing.isSome then refuse duplicateTargetError
  let row : RegisteredTarget :=
    { id := env.newId .insertTarget, ownerOrganizationId := ownerOrganization, ownerUserId := ownerUser,
      hostname := target.hostname, normalizedUrl := target.normalizedUrl, isArchived := false,
      createdAt := env.now .insertTarget }
  env.insert .insertTarget (fun db => db.refusesTarget row) (.insertTarget row)
  return row

def memberOrNotFound (env : Env) (user : Nat) (target : RegisteredTarget) : Prog RegisteredTarget :=
  match target.ownerOrganizationId with
  | none => refuse .notFoundError
  | some organizationId => do
    requireMember env user organizationId
    return target

/- Targets of others are indistinguishable from missing ones. -/
def getVisibleTarget (env : Env) (user targetId : Nat) : Prog RegisteredTarget := do
  match ← env.read .getTarget fun db => db.target? targetId with
  | none => refuse .notFoundError
  | some target =>
    if target.ownerUserId == some user then return target else memberOrNotFound env user target

/- A value that is there already is not written. -/
def flushArchived (env : Env) (target : RegisteredTarget) (isArchived : Bool) : Prog Unit :=
  if target.isArchived = isArchived then return ()
  else env.guarded .updateTarget (fun db => (db.target? target.id).isNone) staleDataError
    (.updateTarget target.id isArchived)

def setArchived (env : Env) (user targetId : Nat) (isArchived : Bool) : Prog RegisteredTarget := do
  let target ← getVisibleTarget env user targetId
  flushArchived env target isArchived
  return target.archived isArchived

/-! `AttestationService`. -/

structure AttestationDetails where
  id : Nat
  targetId : Nat
  methodCode : PyStr
  status : AttestationStatus
  expiresAt : Option Int
  evidenceFileRef : Option PyStr
  createdByUserId : Option Nat
  revokedAt : Option Time
  revokedReason : Option PyStr
  createdAt : Time
  deriving DecidableEq, Repr

def selfAttestationCode : PyStr := py "SELF_ATTESTATION"

def toDetails (row : Attestation) (methodCode : PyStr) : AttestationDetails where
  id := row.id
  targetId := row.targetId
  methodCode := methodCode
  status := row.status
  expiresAt := row.expiresAt
  evidenceFileRef := row.evidenceFileRef
  createdByUserId := row.createdByUserId
  revokedAt := row.revokedAt
  revokedReason := row.revokedReason
  createdAt := row.createdAt

def methodId (env : Env) (code : PyStr) : Prog Nat := do
  match ← env.read .methodId fun _ => attestationMethods.find? fun entry => entry.2 == code with
  | none => refuse .lookupError
  | some entry => return entry.1

def methodCodeMap (env : Env) : Prog (List (Nat × PyStr)) := env.read .methodCodeMap fun _ => attestationMethods

def codeOf (codes : List (Nat × PyStr)) (row : Attestation) : PyStr := (codes.lookup row.methodId).getD selfAttestationCode

/- The column takes aware times only. -/
def expiry : Option DateTime → Prog (Option Int)
  | none => return none
  | some expiresAt =>
    match expiresAt.instant with
    | none => refuse databaseError
    | some instant => return some instant

def ownerText (owner : Option Nat) : PyStr := owner.elim [] uuidText

def createSelfAttestation (env : Env) (user targetId : Nat) (expiresAt : Option DateTime)
    (evidenceFileRef : Option PyStr) : Prog AttestationDetails := do
  let target ← getVisibleTarget env user targetId
  let method ← methodId env selfAttestationCode
  let instant ← expiry expiresAt
  let row : Attestation :=
    { id := env.newId .insertAttestation, targetId := targetId, methodId := method, status := .confirmed,
      evidenceFileRef := evidenceFileRef, expiresAt := instant, createdByUserId := some user,
      revokedAt := none, revokedReason := none, createdAt := env.now .insertAttestation }
  env.insert .insertAttestation (fun db => db.refusesAttestation row) (.insertAttestation row)
  record env user (py "ATTESTATION_CONFIRMED") (py "authorization_attestation") row.id
    [(py "method", some selfAttestationCode), (py "targetId", some (uuidText targetId)),
     (py "targetOwnerUserId", some (ownerText target.ownerUserId)),
     (py "targetOwnerOrganizationId", some (ownerText target.ownerOrganizationId)),
     (py "expiresAt", expiresAt.map DateTime.isoformat)]
  return toDetails row selfAttestationCode

def listForTarget (env : Env) (user targetId : Nat) : Prog (List AttestationDetails) := do
  let _ ← getVisibleTarget env user targetId
  let found ← env.read .listAttestations fun db => db.attestationsOf targetId
  let codes ← methodCodeMap env
  return found.map fun row => toDetails row (codeOf codes row)

def revoke (env : Env) (user attestationId : Nat) (reason : PyStr) : Prog AttestationDetails := do
  match ← env.read .getAttestation fun db => db.attestation? attestationId with
  | none => refuse .notFoundError
  | some attestation =>
    let _ ← getVisibleTarget env user attestation.targetId
    let text := reason.take 1000
    let written := if attestation.revokedReason = some text then none else some text
    env.guarded .updateAttestation (fun db => (db.attestation? attestation.id).isNone) staleDataError
      (.updateAttestation attestation.id (env.now .updateAttestation) written)
    record env user (py "ATTESTATION_REVOKED") (py "authorization_attestation") attestation.id
      [(py "reason", some text)]
    let codes ← methodCodeMap env
    return toDetails (attestation.revoked (env.now .updateAttestation) (some text)) (codeOf codes attestation)

/-! The routes. -/

inductive Request where
  | createOrganization (name : PyStr)
  | getOrganization (organizationId : Nat)
  | listMembers (organizationId : Nat)
  | addMember (organizationId userId : Nat) (role : Role)
  | changeRole (organizationId userId : Nat) (role : Role)
  | removeMember (organizationId userId : Nat)
  | createTarget (hostname url : PyStr) (ownerOrganizationId : Option Nat)
  | getTarget (targetId : Nat)
  | updateTarget (targetId : Nat) (isArchived : Bool)
  | deleteTarget (targetId : Nat)
  | createAttestation (targetId : Nat) (expiresAt : Option DateTime) (evidenceFileRef : Option PyStr)
  | listAttestations (targetId : Nat)
  | revokeAttestation (attestationId : Nat) (reason : PyStr)
  deriving DecidableEq

inductive Answer where
  | organization (details : Organization)
  | members (details : List Membership)
  | member (details : Membership)
  | target (details : RegisteredTarget)
  | attestation (details : AttestationDetails)
  | attestations (details : List AttestationDetails)
  | noContent
  deriving DecidableEq

def memberEntries (userId : Nat) (role : Role) : List (PyStr × Option PyStr) :=
  [(py "memberUserId", some (uuidText userId)), (py "role", some role.text)]

def respond (env : Env) (user : Nat) : Request → Prog Answer
  | .createOrganization name => do
    let details ← createOrganization env user name
    record env user (py "ORGANIZATION_CREATED") (py "organization") details.id [(py "name", some details.name)]
    return .organization details
  | .getOrganization organizationId => return .organization (← getOrganization env user organizationId)
  | .listMembers organizationId => return .members (← listMembers env user organizationId)
  | .addMember organizationId userId role => do
    let details ← addMember env user organizationId userId role
    record env user (py "MEMBER_ADDED") (py "organization") organizationId
      (memberEntries details.userId details.role)
    return .member details
  | .changeRole organizationId userId role => do
    let details ← changeRole env user organizationId userId role
    record env user (py "MEMBER_ROLE_CHANGED") (py "organization") organizationId
      (memberEntries userId details.role)
    return .member details
  | .removeMember organizationId userId => do
    removeMember env user organizationId userId
    record env user (py "MEMBER_REMOVED") (py "organization") organizationId
      [(py "memberUserId", some (uuidText userId))]
    return .noContent
  | .createTarget hostname url ownerOrganizationId =>
    return .target (← registerTarget env user hostname url ownerOrganizationId)
  | .getTarget targetId => return .target (← getVisibleTarget env user targetId)
  | .updateTarget targetId isArchived => return .target (← setArchived env user targetId isArchived)
  | .deleteTarget targetId => do
    let _ ← setArchived env user targetId true
    return .noContent
  | .createAttestation targetId expiresAt evidenceFileRef =>
    return .attestation (← createSelfAttestation env user targetId expiresAt evidenceFileRef)
  | .listAttestations targetId => return .attestations (← listForTarget env user targetId)
  | .revokeAttestation attestationId reason => return .attestation (← revoke env user attestationId reason)

def request (env : Env) (token : Option Nat) (asked : Request) : Prog Unit :=
  Program.session do
    let user ← getCurrentUser env token
    let _ ← respond env user asked
    env.commit .requestCommit

structure Call where
  env : Env
  token : Option Nat
  asked : Request

def Call.program (call : Call) : Prog Unit := request call.env call.token call.asked

end SentinelGpt.Tenancy
