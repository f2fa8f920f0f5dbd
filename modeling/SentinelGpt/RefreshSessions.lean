import SentinelGpt.ScanStore
import SentinelGpt.TransactionHistory

/-! Refresh-token sessions: issuance, rotation, reuse detection and logout, with the
requests around them. -/
namespace SentinelGpt
open ReadCommitted

inductive SessionStatus where
  | active
  | rotated
  | revoked
  deriving DecidableEq, Repr

structure RefreshSession where
  id : Nat
  userId : Nat
  familyId : Nat
  tokenHash : PyStr
  status : SessionStatus
  expiresAt : Time
  deriving DecidableEq, Repr

structure User where
  id : Nat
  isActive : Bool
  deriving DecidableEq, Repr

structure AuthDb where
  sessions : List RefreshSession
  users : List User
  deriving Repr

/- The credential a new one replaces is not a column of the table; it stands in the write
so that runs can speak of it. -/
inductive SessionWrite where
  | insert (parent : Option Nat) (row : RefreshSession)
  | markRotated (id : Nat)
  | revoke (id : Nat)
  deriving DecidableEq, Repr

inductive SessionKey where
  | session (id : Nat)
  | tokenHash (hash : PyStr)
  deriving DecidableEq, Repr

namespace AuthDb

def session? (db : AuthDb) (id : Nat) : Option RefreshSession :=
  db.sessions.find? fun s => s.id == id

def byTokenHash (db : AuthDb) (hash : PyStr) : Option RefreshSession :=
  db.sessions.find? fun s => s.tokenHash == hash

def user? (db : AuthDb) (id : Nat) : Option User := db.users.find? fun u => u.id == id

def familyIds (db : AuthDb) (familyId : Nat) : List Nat :=
  (db.sessions.filter fun s => s.familyId == familyId).map RefreshSession.id

end AuthDb

def setStatus (id : Nat) (status : SessionStatus) (rows : List RefreshSession) :
    List RefreshSession :=
  updateRow RefreshSession.id id (fun row => { row with status := status }) rows

def SessionWrite.effect (db : AuthDb) : SessionWrite → AuthDb
  | .insert _ row => { db with sessions := db.sessions ++ [row] }
  | .markRotated id => { db with sessions := setStatus id .rotated db.sessions }
  | .revoke id => { db with sessions := setStatus id .revoked db.sessions }

def SessionWrite.target : SessionWrite → Nat
  | .insert _ row => row.id
  | .markRotated id | .revoke id => id

def SessionWrite.isInsert : SessionWrite → Bool
  | .insert _ _ => true
  | _ => false

/- A row that is inserted holds its entries of the unique indexes. -/
def SessionWrite.locks : SessionWrite → List SessionKey
  | .insert _ row => [.session row.id, .tokenHash row.tokenHash]
  | .markRotated id => [.session id]
  | .revoke id => [.session id]

def sessionRows : Rows AuthDb SessionWrite SessionKey := ⟨SessionWrite.effect, SessionWrite.locks⟩

/- The points of the requests that can fail. `revokeFamily` names the rows its statement
has found. -/
inductive AuthSite where
  | getByTokenHash
  | getUser
  | tryMarkRotated
  | familyRows (familyId : Nat)
  | revokeFamily (familyId : Nat) (found : List Nat)
  | revokeExpired (id : Nat)
  | revokeInactive (id : Nat)
  | revokeLogout (id : Nat)
  | flush
  | getAccount
  | authenticate
  | rejectionCommit
  | requestCommit
  deriving DecidableEq, Repr

structure AuthEnv where
  python : Python
  now : AuthSite → Time
  newId : Nat
  newFamilyId : Nat
  rawToken : PyStr
  refreshTtlDays : Nat
  fault : AuthSite → Option PyError

abbrev AuthProg := Program AuthDb SessionWrite AuthSite PyError

namespace AuthEnv
variable (env : AuthEnv) {α : Type}

def statement (site : AuthSite) (writes : AuthDb → List SessionWrite) (result : AuthDb → α) :
    AuthProg α :=
  match env.fault site with
  | some e => .raise e
  | none => .exec site writes fun db => .pure (result db)

def read (site : AuthSite) (result : AuthDb → α) : AuthProg α :=
  env.statement site (fun _ => []) result

def commit (site : AuthSite) : AuthProg Unit :=
  match env.fault site with
  | some e => .raise e
  | none => .commit site (.pure ())

def refreshTtl : Time := env.refreshTtlDays * 86400000000

end AuthEnv

def hashRefreshToken (env : AuthEnv) (rawToken : PyStr) : AuthProg PyStr :=
  match hexdigest env.python rawToken with
  | .ok hash => .pure hash
  | .error e => .raise e

/-! `RefreshSessionRepository`. -/

def getByTokenHash (env : AuthEnv) (tokenHash : PyStr) : AuthProg (Option RefreshSession) :=
  env.read .getByTokenHash fun db => db.byTokenHash tokenHash

def isActive (db : AuthDb) (id : Nat) : Bool :=
  (db.session? id).any fun row => row.status == .active

/- `UPDATE … WHERE id = … AND status = ACTIVE`, True when it found its row. -/
def tryMarkRotated (env : AuthEnv) (id : Nat) : AuthProg Bool :=
  env.statement .tryMarkRotated (fun db => if isActive db id then [.markRotated id] else [])
    fun db => isActive db id

/- `UPDATE … WHERE family_id = …` changes the rows its snapshot has found, which may have
to wait for their locks; rows committed meanwhile are not among them. -/
def revokeFamily (env : AuthEnv) (familyId : Nat) : AuthProg Unit := do
  let found ← env.read (.familyRows familyId) fun db => db.familyIds familyId
  env.statement (.revokeFamily familyId found) (fun _ => found.map .revoke) fun _ => ()

/- `UPDATE … WHERE id = …`, whatever the status. -/
def revokeSession (env : AuthEnv) (site : AuthSite) (id : Nat) : AuthProg Unit :=
  env.statement site
    (fun db => if (db.session? id).isSome then [.revoke id] else []) fun _ => ()

structure AddedSession where
  parent : Option Nat
  row : RefreshSession
  deriving DecidableEq, Repr

def conflicts (db : AuthDb) (row : RefreshSession) : Bool :=
  (db.session? row.id).isSome || (db.byTokenHash row.tokenHash).isSome

/- The flush of a commit inserts what the session holds, unless an index refuses it. -/
def flushAdded (env : AuthEnv) : Option AddedSession → AuthProg Unit
  | none => .pure ()
  | some added => do
    let refused ← env.statement .flush
      (fun db => if conflicts db added.row then [] else [.insert added.parent added.row])
      fun db => conflicts db added.row
    if refused then throw (.other (py "IntegrityError")) else return ()

def commitSession (env : AuthEnv) (site : AuthSite) (added : Option AddedSession) :
    AuthProg Unit := do
  flushAdded env added
  env.commit site

/-! `RefreshService`. -/

inductive RefreshRejection where
  | unknown
  | expired
  | inactiveUser
  | reused
  deriving DecidableEq, Repr

structure RotatedSession where
  userId : Nat
  familyId : Nat
  rawToken : PyStr
  expiresAt : Time
  deriving DecidableEq, Repr

inductive RefreshOutcome where
  | rotated (session : RotatedSession) (added : AddedSession)
  | rejected (rejection : RefreshRejection)
  deriving DecidableEq, Repr

def childOf (env : AuthEnv) (stored : RefreshSession) (tokenHash : PyStr) : RefreshSession where
  id := env.newId
  userId := stored.userId
  familyId := stored.familyId
  tokenHash := tokenHash
  status := .active
  expiresAt := env.now .flush + env.refreshTtl

def rotate (env : AuthEnv) (stored : RefreshSession) : AuthProg RefreshOutcome := do
  let tokenHash ← hashRefreshToken env env.rawToken
  let child := childOf env stored tokenHash
  return .rotated ⟨stored.userId, stored.familyId, env.rawToken, child.expiresAt⟩
    ⟨some stored.id, child⟩

def rejectReuse (env : AuthEnv) (familyId : Nat) : AuthProg RefreshOutcome := do
  revokeFamily env familyId
  return .rejected .reused

def rejectRevoked (env : AuthEnv) (site : AuthSite) (id : Nat) (rejection : RefreshRejection) :
    AuthProg RefreshOutcome := do
  revokeSession env site id
  return .rejected rejection

/- Losing the race is treated exactly like reuse. -/
def refreshEligible (env : AuthEnv) (stored : RefreshSession) : AuthProg RefreshOutcome := do
  if ← tryMarkRotated env stored.id then rotate env stored else rejectReuse env stored.familyId

def refreshActive (env : AuthEnv) (stored : RefreshSession) : AuthProg RefreshOutcome := do
  if stored.expiresAt ≤ env.now .getByTokenHash then
    rejectRevoked env (.revokeExpired stored.id) stored.id .expired
  else
    let user ← env.read .getUser fun db => db.user? stored.userId
    if user.any User.isActive then refreshEligible env stored
    else rejectRevoked env (.revokeInactive stored.id) stored.id .inactiveUser

def refreshStored (env : AuthEnv) : Option RefreshSession → AuthProg RefreshOutcome
  | none => return .rejected .unknown
  | some stored => match stored.status with
    | .revoked => return .rejected .unknown
    | .rotated => rejectReuse env stored.familyId
    | .active => refreshActive env stored

def refresh (env : AuthEnv) : Option PyStr → AuthProg RefreshOutcome
  | none => return .rejected .unknown
  | some rawToken =>
    if rawToken.isEmpty then return .rejected .unknown
    else do refreshStored env (← getByTokenHash env (← hashRefreshToken env rawToken))

def logoutStored (env : AuthEnv) : Option RefreshSession → AuthProg Unit
  | none => return ()
  | some stored =>
    if stored.status = .active then revokeSession env (.revokeLogout stored.id) stored.id
    else return ()

def logout (env : AuthEnv) : Option PyStr → AuthProg Unit
  | none => return ()
  | some rawToken =>
    if rawToken.isEmpty then return ()
    else do logoutStored env (← getByTokenHash env (← hashRefreshToken env rawToken))

def issueFamily (env : AuthEnv) (userId : Nat) : AuthProg AddedSession := do
  let tokenHash ← hashRefreshToken env env.rawToken
  return ⟨none, env.newId, userId, env.newFamilyId, tokenHash, .active,
    env.now .flush + env.refreshTtl⟩

/-! The requests. Their session commits a success and rolls back a failure. -/

/- A rejection is committed before it is raised. -/
def answerRefresh (env : AuthEnv) : RefreshOutcome → AuthProg Unit
  | .rejected _ => do
    env.commit .rejectionCommit
    throw .notAuthenticatedError
  | .rotated session added => do
    let account ← env.read .getAccount fun db => db.user? session.userId
    if account.isSome then commitSession env .requestCommit (some added)
    else
      commitSession env .rejectionCommit (some added)
      throw .notAuthenticatedError

def refreshRequest (env : AuthEnv) (rawToken : Option PyStr) : AuthProg Unit :=
  Program.session do answerRefresh env (← refresh env rawToken)

def logoutRequest (env : AuthEnv) (rawToken : Option PyStr) : AuthProg Unit :=
  Program.session do
    logout env rawToken
    env.commit .requestCommit

def loginRequest (env : AuthEnv) (userId : Nat) : AuthProg Unit :=
  Program.session do
    env.read .authenticate fun _ => ()
    let added ← issueFamily env userId
    commitSession env .requestCommit (some added)

inductive AuthRequest where
  | login (env : AuthEnv) (userId : Nat)
  | refresh (env : AuthEnv) (rawToken : Option PyStr)
  | logout (env : AuthEnv) (rawToken : Option PyStr)

namespace AuthRequest

def program : AuthRequest → AuthProg Unit
  | .login env userId => loginRequest env userId
  | .refresh env rawToken => refreshRequest env rawToken
  | .logout env rawToken => logoutRequest env rawToken

def issues? : AuthRequest → Option (Nat × Nat)
  | .login env _ => some (env.newId, env.newFamilyId)
  | _ => none

end AuthRequest
end SentinelGpt
