import SentinelGpt.Accounts
import SentinelGpt.SessionOwners
import SentinelGpt.TransactionEnds

/-! Runs of registrations, logins, refreshes and logouts, in any interleaving and with any
failures: accounts stay unique, and every session begins with a password. -/
namespace SentinelGpt.Accounts
open ReadCommitted Sessions

def AccountDb.keys (db : AccountDb) : List AccountKey :=
  db.accounts.map (fun a => .user a.id) ++ (db.accounts.map (fun a => .email a.email) ++
    (keysOf db.auth).map .session)

def AccountWrite.keys : AccountWrite → List AccountKey
  | .insertUser row => [.user row.id] ++ [.email row.email]
  | .session write => (addedKeys write).map .session

theorem accountLocked (w : AccountWrite) : w.keys ⊆ w.locks := by
  cases w with
  | insertUser row => simp [AccountWrite.keys, AccountWrite.locks]
  | session write => exact List.map_subset _ (addedLocks write)

theorem accountWritten (db : AccountDb) (w : AccountWrite) : ((w.effect db).keys).Perm (db.keys ++ w.keys) := by
  cases w with
  | insertUser row =>
    apply List.perm_iff_count.mpr
    intro k
    have same : keysOf ((AccountWrite.insertUser row).effect db).auth = keysOf db.auth := rfl
    simp only [AccountDb.keys, same]
    simp only [AccountWrite.effect, AccountWrite.keys, List.map_append, List.map_cons, List.map_nil, List.count_append]
    omega
  | session write =>
    have written : (keysOf ((AccountWrite.session write).effect db).auth).Perm (keysOf db.auth ++ addedKeys write) :=
      keysWritten db.auth write
    have last := written.map AccountKey.session
    rw [List.map_append] at last
    simp only [AccountDb.keys, AccountWrite.keys, List.append_assoc]
    exact (last.append_left _).append_left _

theorem accountEffect (db : AccountDb) (w : AccountWrite) : ((w.effect db).keys).Subperm (db.keys ++ w.keys) :=
  (accountWritten db w).subperm

def accountIndex : UniqueIndex accountRows := ⟨AccountDb.keys, AccountWrite.keys, accountLocked, accountEffect⟩

theorem accountKept (w : AccountWrite) : accountIndex.Keeps w := fun s => (accountWritten s w).symm.subset

theorem accountFree {db : AccountDb} {row : Account} (new : db.refuses row = false) :
    accountIndex.Free db [.insertUser row] := by
  have one : accountIndex.added [.insertUser row] = [.user row.id] ++ [.email row.email] := List.flatMap_singleton _ _
  have other : ∀ a ∈ db.accounts, a.id ≠ row.id ∧ a.email ≠ row.email := by
    simpa [AccountDb.refuses] using new
  refine ⟨fun w _ => accountKept w, by simp [one], ?_⟩
  rw [one]
  intro k member there
  rcases List.mem_append.mp member with id | email
  · cases List.mem_singleton.mp id
    obtain ⟨a, here, same⟩ : ∃ a ∈ db.accounts, a.id = row.id := by
      simpa [accountIndex, AccountDb.keys] using there
    exact (other a here).1 same
  · cases List.mem_singleton.mp email
    obtain ⟨a, here, same⟩ : ∃ a ∈ db.accounts, a.email = row.email := by
      simpa [accountIndex, AccountDb.keys] using there
    exact (other a here).2 same

theorem sessionsFree {db : AccountDb} {ws : List SessionWrite} (free : sessionIndex.Free db.auth ws) :
    accountIndex.Free db (ws.map .session) := by
  have keys : accountIndex.added (ws.map .session) = (sessionIndex.added ws).map .session := by
    simp only [UniqueIndex.added, List.flatMap_map, List.map_flatMap]
    rfl
  refine ⟨fun w _ => accountKept w, ?_, ?_⟩
  · rw [keys]
    exact free.new.map fun _ _ same => AccountKey.session.inj same
  · rw [keys]
    intro k member there
    obtain ⟨key, added, rfl⟩ := List.mem_map.mp member
    have present : key ∈ keysOf db.auth := by
      simpa [accountIndex, AccountDb.keys] using there
    exact free.free key added present

def Enrolled (argon : Argon) (requests : List AccountRequest) (store : AccountDb) (a : Account) : Prop :=
  a ∈ store.accounts ∨ ∃ env payload, .register env payload ∈ requests ∧ env.newUserId = a.id ∧
    payload.email = a.email ∧ argon.hash env.salt payload.password = .ok a.passwordHash

def Authenticates (argon : Argon) (payload : LoginRequest) (a : Account) : Prop :=
  a.email = payload.email ∧ a.isActive = true ∧ argon.verify a.passwordHash payload.password = .ok true

def Begun (argon : Argon) (requests : List AccountRequest) (store : AccountDb) (familyId userId : Nat) : Prop :=
  (∃ s ∈ store.sessions, s.familyId = familyId ∧ s.userId = userId) ∨
    ∃ env payload a, .login env payload ∈ requests ∧ env.auth.newFamilyId = familyId ∧
      Enrolled argon requests store a ∧ a.id = userId ∧ Authenticates argon payload a

section Contracts
variable (P : Nat → Nat → Prop) (E : Account → Prop)

structure Sourced (db : AccountDb) : Prop where
  accounts : ∀ a ∈ db.accounts, E a
  sessions : Owned P db.auth

def Sources : AccountWrite → Prop
  | .insertUser row => E row
  | .session (.insert _ row) => P row.familyId row.userId
  | .session _ => True

def sourceContract : Contract AccountDb AccountWrite AccountSite where
  assume _
    | .exec _ v _ => Sourced P E v
    | _ => True
  guarantee _
    | .exec _ v ws => accountIndex.Free v ws ∧ ∀ w ∈ ws, Sources P E w
    | _ => True

end Contracts

section Programs
variable {P : Nat → Nat → Prop} {E : Account → Prop} {env : AccountEnv} {argon : Argon} {α : Type}

theorem sourcedEffect {db : AccountDb} {w : AccountWrite} (sourced : Sourced P E db) (sources : Sources P E w) :
    Sourced P E (w.effect db) := by
  cases w with
  | insertUser row =>
    refine ⟨?_, sourced.sessions⟩
    intro a member
    rcases List.mem_append.mp member with old | new
    · exact sourced.accounts a old
    · cases List.mem_singleton.mp new
      exact sources
  | session write =>
    refine ⟨sourced.accounts, ?_⟩
    have owned : Owned P (write.effect db.auth) := by
      apply ownedEffect sourced.sessions
      intro parent row same
      cases same
      exact sources
    exact owned

theorem partCarries : sessionPart.Carries (ownContract P) (sourceContract P E) := by
  constructor
  · intro log log' site v ws sourced
    refine ⟨sourced.sessions, ?_⟩
    intro owed
    refine ⟨sessionsFree owed.1, ?_⟩
    intro w member
    obtain ⟨write, there, rfl⟩ := List.mem_map.mp member
    cases write with
    | insert parent row => exact owed.2 parent row there
    | markRotated id => trivial
    | revoke id => trivial
  · exact fun _ _ _ _ => ⟨trivial, fun _ => trivial⟩
  · exact fun _ _ _ => ⟨trivial, fun _ => trivial⟩
  · exact fun _ _ _ _ => ⟨trivial, fun _ => trivial⟩

theorem sourceStatement {site : AccountSite} {writes : AccountDb → List AccountWrite} {result : AccountDb → α}
    {Q : α → Prop} (owed : ∀ v, accountIndex.Free v (writes v) ∧ ∀ w ∈ writes v, Sources P E w)
    (known : ∀ v, Sourced P E v → Q (result v)) : Meets (sourceContract P E) (env.statement site writes result) Q := by
  unfold AccountEnv.statement
  split
  · exact .raise
  · intro log v sourced
    refine ⟨owed v, ?_⟩
    intro a same
    cases same
    exact known v sourced

theorem nothingOwed (v : AccountDb) : accountIndex.Free v [] ∧ ∀ w ∈ ([] : List AccountWrite), Sources P E w :=
  ⟨⟨by simp, List.nodup_nil, by simp [UniqueIndex.added]⟩, by simp⟩

theorem sourceCommit {site : AccountSite} : Meets (sourceContract P E) (env.commit site) fun _ => True := by
  unfold AccountEnv.commit
  split
  · exact .raise
  · exact fun log _ => ⟨trivial, fun _ _ => trivial⟩

theorem sourceGetByEmail {email : PyStr} : Meets (sourceContract P E) (getByEmail env email)
    fun found => ∀ a, found = some a → E a ∧ a.email = email := by
  apply Meets.bind (Q := fun rows => ∀ a ∈ rows, E a ∧ a.email = email)
  · apply sourceStatement (fun v => nothingOwed v)
    intro v sourced a member
    obtain ⟨there, same⟩ := List.mem_filter.mp member
    exact ⟨sourced.accounts a there, by simpa using same⟩
  · intro rows known
    split
    · exact .pure fun a same => by contradiction
    · rename_i row
      apply Meets.pure
      intro a same
      cases same
      exact known row List.mem_cons_self
    · exact .raise

theorem sourceRegister {payload : RegisterRequest}
    (enrolls : ∀ h, argon.hash env.salt payload.password = .ok h → E ⟨env.newUserId, payload.email, h, true, env.now⟩) :
    Meets (sourceContract P E) (registerRequest env argon payload) fun _ => True := by
  have hashes : Meets (sourceContract P E) (hashPassword argon env.salt payload.password) fun h =>
      argon.hash env.salt payload.password = .ok h := by
    unfold hashPassword
    split
    · rename_i same
      exact .pure same
    · exact .raise
  have inserts : ∀ row, E row → Meets (sourceContract P E) (insertUser env row) fun _ => True := by
    intro row enrolled
    apply Meets.bind (Q := fun _ => True) (sourceStatement ?_ fun _ _ => trivial)
    · intro refused _
      split
      · exact .raise
      · exact .pure trivial
    · intro v
      cases no : v.refuses row with
      | true => exact nothingOwed v
      | false =>
        refine ⟨accountFree no, ?_⟩
        intro w member
        cases List.mem_singleton.mp member
        exact enrolled
  have registers : Meets (sourceContract P E) (registerUser env argon payload.email payload.password) fun _ => True := by
    apply Meets.bind sourceGetByEmail
    intro existing _
    split
    · exact .bind (Q := fun _ => False) .raise fun _ absurd => absurd.elim
    · apply Meets.bind hashes
      intro passwordHash same
      apply Meets.bind (inserts _ (enrolls passwordHash same))
      intro _ _
      exact .pure trivial
  apply Meets.session fun _ => trivial
  apply Meets.bind registers
  intro account _
  exact sourceCommit

theorem sourceAuthenticate {payload : LoginRequest} :
    Meets (sourceContract P E) (authenticate env argon payload.email payload.password)
      fun a => E a ∧ Authenticates argon payload a := by
  have verifies : ∀ h, Meets (sourceContract P E) (verifyPassword argon h payload.password) fun verified =>
      verified = true → argon.verify h payload.password = .ok true := by
    intro h
    unfold verifyPassword
    split
    · rename_i verified same
      exact .pure fun yes => yes ▸ same
    · exact .pure fun yes => by contradiction
    · exact .pure fun yes => by contradiction
    · exact .raise
  apply Meets.bind sourceGetByEmail
  intro found known
  cases found with
  | none => exact .raise
  | some a =>
    obtain ⟨enrolled, email⟩ := known a rfl
    apply Meets.bind (verifies a.passwordHash)
    intro verified yes
    split
    · rename_i both
      rw [Bool.and_eq_true] at both
      exact .pure ⟨enrolled, email, both.2, yes both.1⟩
    · exact .raise

theorem sourceLogin {payload : LoginRequest}
    (begins : ∀ a, E a → Authenticates argon payload a → P env.auth.newFamilyId a.id) :
    Meets (sourceContract P E) (loginRequest env argon payload) fun _ => True := by
  apply Meets.session fun _ => trivial
  apply Meets.bind sourceAuthenticate
  intro a known
  apply Meets.within partCarries
  apply Meets.bind (ownsIssue (begins a known.1 known.2))
  intro added owned
  apply ownsCommitSession
  intro other same
  cases same
  exact owned

end Programs

abbrev AccountTrace := List (Nat × Event AccountDb AccountWrite AccountSite)

def accountSystem (argon : Argon) (store : AccountDb) (requests : List AccountRequest) :
    System AccountDb AccountWrite AccountSite PyError :=
  System.start store (requests.map (AccountRequest.program argon))

section Runs
variable {argon : Argon} {requests : List AccountRequest} {store : AccountDb}

theorem requestSourced {asked : AccountRequest} (member : asked ∈ requests) :
    Meets (sourceContract (Begun argon requests store) (Enrolled argon requests store))
      (asked.program argon) fun _ => True := by
  cases asked with
  | register env payload =>
    apply sourceRegister
    intro h same
    exact .inr ⟨env, payload, member, rfl, rfl, same⟩
  | login env payload =>
    apply sourceLogin
    intro a enrolled authenticates
    exact .inr ⟨env, payload, a, member, rfl, enrolled, rfl, authenticates⟩
  | refresh env rawToken => exact Meets.within partCarries (ownsRefreshRequest rawToken)
  | logout env rawToken => exact Meets.within partCarries (ownsLogoutRequest rawToken)

structure Kept (argon : Argon) (requests : List AccountRequest) (store : AccountDb)
    (t : System AccountDb AccountWrite AccountSite PyError) : Prop where
  unique : accountIndex.Unique (fun _ => false) t
  sourced : Sourced (Begun argon requests store) (Enrolled argon requests store) t.store
  staged : ∀ (i : Nat) c, t.clients[i]? = some c → ∀ w ∈ c.pending,
    Sources (Begun argon requests store) (Enrolled argon requests store) w

theorem keptStart (unique : store.keys.Nodup) : Kept argon requests store (accountSystem argon store requests) := by
  constructor
  · exact UniqueIndex.uniqueStart unique
  · exact ⟨fun a member => .inl member, fun s member => .inl ⟨s, member, rfl, rfl⟩⟩
  · intro i c found w member
    simp only [accountSystem, System.start, List.getElem?_map, Option.map_eq_some_iff] at found
    obtain ⟨p, -, rfl⟩ := found
    contradiction

theorem sourcedView {t : System AccountDb AccountWrite AccountSite PyError} (kept : Kept argon requests store t)
    {i : Nat} {c : Client AccountDb AccountWrite AccountSite PyError} (found : t.clients[i]? = some c) :
    Sourced (Begun argon requests store) (Enrolled argon requests store)
      (view AccountWrite.effect t.store c.pending) :=
  viewKeeps (R := accountRows) (fun _ _ sources sourced => sourcedEffect sourced sources) (kept.staged i c found)
    kept.sourced

theorem keptMove {t u : System AccountDb AccountWrite AccountSite PyError} {i : Nat}
    {c : Client AccountDb AccountWrite AccountSite PyError} {e : Event AccountDb AccountWrite AccountSite}
    {log : List (Event AccountDb AccountWrite AccountSite)} (apart : Apart accountRows t)
    (kept : Kept argon requests store t) (found : t.clients[i]? = some c) (did : Moved accountRows t i c e u)
    (owed : (sourceContract (Begun argon requests store) (Enrolled argon requests store)).guarantee log e) :
    Kept argon requests store u := by
  have free : (accountIndex.contract false).guarantee log e := by
    cases e with
    | exec site v ws => exact owed.1
    | _ => trivial
  constructor
  · exact UniqueIndex.uniqueMove apart kept.unique found did free
  · rw [movedStore did]
    split
    · exact sourcedView kept found
    · exact kept.sourced
  · apply movedEach (fun _ d => ∀ w ∈ d.pending, Sources _ _ w) found did
    · intro d pending w member
      rw [pending] at member
      cases e with
      | exec site v ws =>
        rcases List.mem_append.mp member with old | new
        · exact kept.staged i c found w old
        · exact owed.2 w new
      | call site => exact kept.staged i c found w member
      | commit site => contradiction
      | rollback => contradiction
      | crash => contradiction
    · exact fun j d _ here => kept.staged j d here

theorem keptRun (unique : store.keys.Nodup) {trace : AccountTrace}
    {t : System AccountDb AccountWrite AccountSite PyError}
    (run : Run accountRows (accountSystem argon store requests) trace t) : Kept argon requests store t := by
  have valid : ∀ (i : Nat) p, (requests.map (AccountRequest.program argon))[i]? = some p →
      wp (sourceContract (Begun argon requests store) (Enrolled argon requests store)) [] p fun _ _ => True := by
    intro i p found
    simp only [List.getElem?_map, Option.map_eq_some_iff] at found
    obtain ⟨asked, here, rfl⟩ := found
    exact wpMono (fun _ _ _ => trivial) (requestSourced (List.mem_of_getElem? here) [])
  have relies := runRelies (C := fun _ => sourceContract (Begun argon requests store) (Enrolled argon requests store))
    valid (fun _ _ => trivial) (fun _ t => Kept argon requests store t) (keptStart unique)
    (fun _ t i c e u _ kept found did => by
      cases did with
      | exec v at_ reads free => exact reads ▸ sourcedView kept found
      | _ => trivial)
    (fun _ _ _ _ _ _ run kept found did owed => keptMove (locksApart run) kept found did owed) run
  exact relies.1

end Runs

/- A login that gives the password of a user: of an account that was there, or the very one
the user has registered with. -/
def Proves (argon : Argon) (requests : List AccountRequest) (store : AccountDb) (payload : LoginRequest)
    (userId : Nat) : Prop :=
  (∃ a ∈ store.accounts, a.id = userId ∧ Authenticates argon payload a) ∨
    ∃ env registered, .register env registered ∈ requests ∧ env.newUserId = userId ∧
      registered.email = payload.email ∧ registered.password = payload.password

structure Guarded (argon : Argon) (requests : List AccountRequest) (store db : AccountDb) : Prop where
  unique : db.keys.Nodup
  accounts : ∀ a ∈ db.accounts, Enrolled argon requests store a
  sessions : ∀ s ∈ db.sessions, (∃ first ∈ store.sessions, first.familyId = s.familyId ∧ first.userId = s.userId) ∨
    ∃ env payload, .login env payload ∈ requests ∧ env.auth.newFamilyId = s.familyId ∧
      Proves argon requests store payload s.userId

def plainArgon : Argon where
  hash _ plaintext := .ok (py "$argon2id$" ++ plaintext)
  verify passwordHash plaintext :=
    if passwordHash = py "$argon2id$" ++ plaintext then .ok true else .error .verifyMismatch

theorem plainBinding (salt p h q : PyStr) (hashed : plainArgon.hash salt p = .ok h)
    (verified : plainArgon.verify h q = .ok true) : p = q := by
  cases Except.ok.inj hashed
  simp only [plainArgon] at verified
  split at verified
  · rename_i same
    exact List.append_cancel_left same
  · contradiction

def accountEnv (newUserId : Nat) (auth : AuthEnv) : AccountEnv := ⟨auth, 1, newUserId, [], fun _ => none⟩

def visitor : PyStr := py "visitor@example.org"

def sesame : PyStr := py "open sesame, door"

theorem sesameBounded : 12 ≤ sesame.length ∧ sesame.length ≤ 128 := by
  decide

theorem sesameGiven : 1 ≤ sesame.length ∧ sesame.length ≤ 128 := by
  decide

theorem guessGiven : 1 ≤ (py "guess").length ∧ (py "guess").length ≤ 128 := by
  decide

def visits : List AccountRequest :=
  [.register (accountEnv 1 (authEnv 4 (py "d"))) ⟨visitor, sesame, sesameBounded⟩,
    .login (accountEnv 2 (authEnv 5 (py "a"))) ⟨visitor, sesame, sesameGiven⟩,
    .login (accountEnv 3 (authEnv 6 (py "c"))) ⟨visitor, py "guess", guessGiven⟩,
    .refresh (authEnv 7 (py "b")) (some (py "a"))]

def visitMoves : List Move :=
  [.step 0, .step 0, .step 0, .step 1, .step 2, .step 1, .step 1, .step 3, .step 3, .step 2, .step 3, .step 3, .step 3, .step 3]

end SentinelGpt.Accounts
