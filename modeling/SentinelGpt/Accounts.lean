import SentinelGpt.ProgramParts
import SentinelGpt.RefreshSessions

/-! Accounts: registration, and the login that checks a password before it issues a
session. The other requests are those of the sessions, on their part of the store. -/
namespace SentinelGpt.Accounts
open ReadCommitted

structure Account where
  id : Nat
  email : PyStr
  passwordHash : PyStr
  isActive : Bool
  createdAt : Time
  deriving DecidableEq, Repr

structure AccountDb where
  accounts : List Account
  sessions : List RefreshSession
  deriving Repr

def AccountDb.auth (db : AccountDb) : AuthDb := ⟨db.sessions, db.accounts.map fun a => ⟨a.id, a.isActive⟩⟩

inductive AccountWrite where
  | insertUser (row : Account)
  | session (write : SessionWrite)
  deriving DecidableEq, Repr

inductive AccountKey where
  | user (id : Nat)
  | email (email : PyStr)
  | session (key : SessionKey)
  deriving DecidableEq, Repr

def AccountWrite.effect (db : AccountDb) : AccountWrite → AccountDb
  | .insertUser row => { db with accounts := db.accounts ++ [row] }
  | .session write => { db with sessions := (write.effect db.auth).sessions }

def AccountWrite.locks : AccountWrite → List AccountKey
  | .insertUser row => [.user row.id, .email row.email]
  | .session write => write.locks.map .session

def accountRows : Rows AccountDb AccountWrite AccountKey := ⟨AccountWrite.effect, AccountWrite.locks⟩

inductive AccountSite where
  | getByEmail
  | insertUser
  | requestCommit
  | session (site : AuthSite)
  deriving DecidableEq, Repr

abbrev AccountProg := Program AccountDb AccountWrite AccountSite PyError

def sessionPart : Part AuthDb SessionWrite AuthSite AccountDb AccountWrite AccountSite :=
  ⟨AccountDb.auth, .session, .session⟩

/-! `password_hasher.py`, on Argon2. -/

inductive VerifyError where
  | verifyMismatch
  | invalidHash
  | other (e : PyError)
  deriving DecidableEq, Repr

structure Argon where
  hash : (salt : PyStr) → (plaintext : PyStr) → Except PyError PyStr
  verify : (passwordHash : PyStr) → (plaintext : PyStr) → Except VerifyError Bool

def hashPassword (argon : Argon) (salt plaintext : PyStr) : AccountProg PyStr :=
  match argon.hash salt plaintext with
  | .ok passwordHash => .pure passwordHash
  | .error e => .raise e

def verifyPassword (argon : Argon) (passwordHash plaintext : PyStr) : AccountProg Bool :=
  match argon.verify passwordHash plaintext with
  | .ok verified => .pure verified
  | .error .verifyMismatch | .error .invalidHash => .pure false
  | .error (.other e) => .raise e

structure AccountEnv where
  auth : AuthEnv
  now : Time
  newUserId : Nat
  salt : PyStr
  fault : AccountSite → Option PyError

namespace AccountEnv
variable (env : AccountEnv) {α : Type}

def statement (site : AccountSite) (writes : AccountDb → List AccountWrite) (result : AccountDb → α) :
    AccountProg α :=
  match env.fault site with
  | some e => .raise e
  | none => .exec site writes fun db => .pure (result db)

def read (site : AccountSite) (result : AccountDb → α) : AccountProg α := env.statement site (fun _ => []) result

def commit (site : AccountSite) : AccountProg Unit :=
  match env.fault site with
  | some e => .raise e
  | none => .commit site (.pure ())

end AccountEnv

/-! `UserRepository` and `UserService`. -/

def AccountDb.byEmail (db : AccountDb) (email : PyStr) : List Account :=
  db.accounts.filter fun a => a.email == email

def getByEmail (env : AccountEnv) (email : PyStr) : AccountProg (Option Account) := do
  match ← env.read .getByEmail fun db => db.byEmail email with
  | [] => return none
  | [row] => return some row
  | _ => throw (.other (py "MultipleResultsFound"))

def AccountDb.refuses (db : AccountDb) (row : Account) : Bool :=
  db.accounts.any fun a => a.id == row.id || a.email == row.email

def insertUser (env : AccountEnv) (row : Account) : AccountProg Unit := do
  let refused ← env.statement .insertUser (fun db => if db.refuses row then [] else [.insertUser row])
    fun db => db.refuses row
  if refused then throw (.other (py "IntegrityError")) else return ()

def registerUser (env : AccountEnv) (argon : Argon) (email password : PyStr) : AccountProg Account := do
  let existing ← getByEmail env email
  if existing.isSome then throw (.other (py "EmailAlreadyRegisteredError"))
  let passwordHash ← hashPassword argon env.salt password
  let user : Account := ⟨env.newUserId, email, passwordHash, true, env.now⟩
  insertUser env user
  return user

/- The same failure whether the email is unknown or the password is wrong. -/
def authenticate (env : AccountEnv) (argon : Argon) (email password : PyStr) : AccountProg Account := do
  match ← getByEmail env email with
  | none => throw (.other (py "InvalidCredentialsError"))
  | some user =>
    if (← verifyPassword argon user.passwordHash password) && user.isActive then return user
    else throw (.other (py "InvalidCredentialsError"))

/-! The routes. -/

/- What the validation of the bodies lets through. -/
structure RegisterRequest where
  email : PyStr
  password : PyStr
  bounded : 12 ≤ password.length ∧ password.length ≤ 128

structure LoginRequest where
  email : PyStr
  password : PyStr
  bounded : 1 ≤ password.length ∧ password.length ≤ 128

def registerRequest (env : AccountEnv) (argon : Argon) (payload : RegisterRequest) : AccountProg Unit :=
  Program.session do
    let _ ← registerUser env argon payload.email payload.password
    env.commit .requestCommit

/- `_issue_session`; the session is flushed by the commit. -/
def issueSession (env : AuthEnv) (userId : Nat) : AuthProg Unit := do
  let added ← issueFamily env userId
  commitSession env .requestCommit (some added)

def loginRequest (env : AccountEnv) (argon : Argon) (payload : LoginRequest) : AccountProg Unit :=
  Program.session do
    let account ← authenticate env argon payload.email payload.password
    (issueSession env.auth account.id).within sessionPart

inductive AccountRequest where
  | register (env : AccountEnv) (payload : RegisterRequest)
  | login (env : AccountEnv) (payload : LoginRequest)
  | refresh (env : AuthEnv) (rawToken : Option PyStr)
  | logout (env : AuthEnv) (rawToken : Option PyStr)

def AccountRequest.program (argon : Argon) : AccountRequest → AccountProg Unit
  | .register env payload => registerRequest env argon payload
  | .login env payload => loginRequest env argon payload
  | .refresh env rawToken => (refreshRequest env rawToken).within sessionPart
  | .logout env rawToken => (logoutRequest env rawToken).within sessionPart

end SentinelGpt.Accounts
