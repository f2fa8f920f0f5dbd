import SentinelGpt.ReuseDetection
import SentinelGpt.UniqueIndexes

/-! Whose the sessions are. A request of the sessions gives a new credential to the user and
the family of one it has found, and the unique indexes refuse it an entry that is there. -/
namespace SentinelGpt.Sessions
open ReadCommitted

def keysOf (db : AuthDb) : List SessionKey :=
  db.sessions.map (fun s => .session s.id) ++ db.sessions.map fun s => .tokenHash s.tokenHash

def addedKeys : SessionWrite → List SessionKey
  | .insert _ row => [.session row.id] ++ [.tokenHash row.tokenHash]
  | _ => []

theorem addedLocks (w : SessionWrite) : addedKeys w ⊆ w.locks := by
  cases w <;> simp [addedKeys, SessionWrite.locks]

theorem keysWritten (db : AuthDb) (w : SessionWrite) : (keysOf (w.effect db)).Perm (keysOf db ++ addedKeys w) := by
  have fixed : ∀ id status, keysOf { db with sessions := setStatus id status db.sessions } = keysOf db := by
    intro id status
    have columns : ∀ s : RefreshSession, (if s.id = id then { s with status := status } else s).id = s.id ∧
        (if s.id = id then { s with status := status } else s).tokenHash = s.tokenHash := by
      intro s
      split <;> exact ⟨rfl, rfl⟩
    simp only [keysOf, setStatus, updateRow, List.map_map, Function.comp_def, columns]
  cases w with
  | insert parent row =>
    apply List.perm_iff_count.mpr
    intro k
    simp only [keysOf, addedKeys, SessionWrite.effect, List.map_append, List.map_cons, List.map_nil,
      List.count_append]
    omega
  | markRotated id =>
    rw [SessionWrite.effect, fixed, show addedKeys (.markRotated id) = [] from rfl, List.append_nil]
  | revoke id => rw [SessionWrite.effect, fixed, show addedKeys (.revoke id) = [] from rfl, List.append_nil]

theorem keysEffect (db : AuthDb) (w : SessionWrite) : (keysOf (w.effect db)).Subperm (keysOf db ++ addedKeys w) :=
  (keysWritten db w).subperm

def sessionIndex : UniqueIndex sessionRows := ⟨keysOf, addedKeys, addedLocks, keysEffect⟩

theorem keysKept (w : SessionWrite) : sessionIndex.Keeps w := fun s => (keysWritten s w).symm.subset

theorem statusFree (db : AuthDb) {ws : List SessionWrite} (status : ∀ w ∈ ws, w.isInsert = false) :
    sessionIndex.Free db ws := by
  have none : sessionIndex.added ws = [] := by
    apply List.flatMap_eq_nil_iff.mpr
    intro w member
    cases w with
    | insert parent row => exact absurd (status _ member) (by simp [SessionWrite.isInsert])
    | markRotated id => rfl
    | revoke id => rfl
  exact ⟨fun w _ => keysKept w, by simp [none], by simp [none]⟩

theorem insertFree {db : AuthDb} {row : RefreshSession} (parent : Option Nat) (new : conflicts db row = false) :
    sessionIndex.Free db [.insert parent row] := by
  have one : sessionIndex.added [.insert parent row] = [.session row.id] ++ [.tokenHash row.tokenHash] :=
    List.flatMap_singleton _ _
  refine ⟨fun w _ => keysKept w, by simp [one], ?_⟩
  rw [one]
  intro k member there
  rcases List.mem_append.mp member with id | hash
  · cases List.mem_singleton.mp id
    obtain ⟨s, here, same⟩ : ∃ s ∈ db.sessions, s.id = row.id := by
      simpa [sessionIndex, keysOf] using there
    exact noConflict new s here same
  · cases List.mem_singleton.mp hash
    obtain ⟨s, here, same⟩ : ∃ s ∈ db.sessions, s.tokenHash = row.tokenHash := by
      simpa [sessionIndex, keysOf] using there
    simp only [conflicts, Bool.or_eq_false_iff, Option.isSome_eq_false_iff, Option.isNone_iff_eq_none] at new
    have none := List.find?_eq_none.mp new.2 s here
    simp [same] at none

def Owned (P : Nat → Nat → Prop) (db : AuthDb) : Prop := ∀ s ∈ db.sessions, P s.familyId s.userId

def Owning (P : Nat → Nat → Prop) (ws : List SessionWrite) : Prop :=
  ∀ parent row, .insert parent row ∈ ws → P row.familyId row.userId

def ownContract (P : Nat → Nat → Prop) : Contract AuthDb SessionWrite AuthSite where
  assume _
    | .exec _ v _ => Owned P v
    | _ => True
  guarantee _
    | .exec _ v ws => sessionIndex.Free v ws ∧ Owning P ws
    | _ => True

theorem ownedEffect {P : Nat → Nat → Prop} {db : AuthDb} {w : SessionWrite} (owned : Owned P db)
    (owning : ∀ parent row, w = .insert parent row → P row.familyId row.userId) : Owned P (w.effect db) := by
  have set : ∀ id status, ∀ s ∈ setStatus id status db.sessions, P s.familyId s.userId := by
    intro id status s member
    rcases memSetStatus.mp member with ⟨old, -⟩ | ⟨r, old, -, rfl⟩
    · exact owned s old
    · exact owned r old
  cases w with
  | insert parent row =>
    intro s member
    rcases List.mem_append.mp member with old | new
    · exact owned s old
    · cases List.mem_singleton.mp new
      exact owning parent row rfl
  | markRotated id => exact set id _
  | revoke id => exact set id _

section Programs
variable {P : Nat → Nat → Prop} {env : AuthEnv} {α : Type}

theorem ownsStatement {site : AuthSite} {writes : AuthDb → List SessionWrite} {result : AuthDb → α} {Q : α → Prop}
    (owed : ∀ v, Owned P v → sessionIndex.Free v (writes v) ∧ Owning P (writes v))
    (known : ∀ v, Owned P v → Q (result v)) : Meets (ownContract P) (env.statement site writes result) Q := by
  unfold AuthEnv.statement
  split
  · exact .raise
  · intro log v owned
    refine ⟨owed v owned, ?_⟩
    intro a same
    cases same
    exact known v owned

theorem ownsRead {site : AuthSite} {result : AuthDb → α} {Q : α → Prop} (known : ∀ v, Owned P v → Q (result v)) :
    Meets (ownContract P) (env.read site result) Q :=
  ownsStatement (fun v _ => ⟨statusFree v (by simp), by simp [Owning]⟩) known

theorem ownsStatus {site : AuthSite} {writes : AuthDb → List SessionWrite} {result : AuthDb → α}
    (status : ∀ v, ∀ w ∈ writes v, w.isInsert = false) :
    Meets (ownContract P) (env.statement site writes result) fun _ => True := by
  apply ownsStatement
  · intro v _
    refine ⟨statusFree v (status v), ?_⟩
    intro parent row inserted
    exact absurd (status v _ inserted) (by simp [SessionWrite.isInsert])
  · exact fun _ _ => trivial

theorem ownsCommit {site : AuthSite} : Meets (ownContract P) (env.commit site) fun _ => True := by
  unfold AuthEnv.commit
  split
  · exact .raise
  · exact fun log _ => ⟨trivial, fun _ _ => trivial⟩

theorem ownsHash {rawToken : PyStr} : Meets (ownContract P) (hashRefreshToken env rawToken) fun _ => True := by
  unfold hashRefreshToken
  split
  · exact .pure trivial
  · exact .raise

theorem ownsRevokeFamily {familyId : Nat} : Meets (ownContract P) (revokeFamily env familyId) fun _ => True := by
  apply Meets.bind (Q := fun _ => True) (ownsRead fun _ _ => trivial)
  intro found _
  apply ownsStatus
  intro v w member
  obtain ⟨id, -, rfl⟩ := List.mem_map.mp member
  rfl

theorem ownsRevoke {site : AuthSite} {id : Nat} : Meets (ownContract P) (revokeSession env site id) fun _ => True := by
  apply ownsStatus
  intro v w member
  split at member
  · cases List.mem_singleton.mp member
    rfl
  · contradiction

theorem ownsFlush {added : Option AddedSession} (owned : ∀ a, added = some a → P a.row.familyId a.row.userId) :
    Meets (ownContract P) (flushAdded env added) fun _ => True := by
  cases added with
  | none => exact .pure trivial
  | some added =>
    apply Meets.bind (Q := fun _ => True) (ownsStatement ?_ fun _ _ => trivial)
    · intro refused _
      split
      · exact .raise
      · exact .pure trivial
    · intro v _
      cases no : conflicts v added.row with
      | true => exact ⟨statusFree v (by simp), by simp [Owning]⟩
      | false =>
        refine ⟨insertFree added.parent no, ?_⟩
        intro parent row inserted
        cases List.mem_singleton.mp inserted
        exact owned added rfl

theorem ownsCommitSession {site : AuthSite} {added : Option AddedSession}
    (owned : ∀ a, added = some a → P a.row.familyId a.row.userId) :
    Meets (ownContract P) (commitSession env site added) fun _ => True :=
  .bind (ownsFlush owned) fun _ _ => ownsCommit

def Hands (P : Nat → Nat → Prop) (outcome : RefreshOutcome) : Prop :=
  ∀ session added, outcome = .rotated session added → P added.row.familyId added.row.userId

theorem handsRejected (rejection : RefreshRejection) : Hands P (.rejected rejection) := by
  intro session added same
  contradiction

theorem ownsRejectReuse {familyId : Nat} : Meets (ownContract P) (rejectReuse env familyId) (Hands P) :=
  .bind ownsRevokeFamily fun _ _ => .pure (handsRejected _)

theorem ownsRejectRevoked {site : AuthSite} {id : Nat} {rejection : RefreshRejection} :
    Meets (ownContract P) (rejectRevoked env site id rejection) (Hands P) :=
  .bind ownsRevoke fun _ _ => .pure (handsRejected _)

theorem ownsRefreshActive {stored : RefreshSession} (owned : P stored.familyId stored.userId) :
    Meets (ownContract P) (refreshActive env stored) (Hands P) := by
  have rotates : Meets (ownContract P) (rotate env stored) (Hands P) := by
    apply Meets.bind ownsHash
    intro tokenHash _
    apply Meets.pure
    intro session added same
    cases same
    exact owned
  have marks : Meets (ownContract P) (tryMarkRotated env stored.id) fun _ => True := by
    apply ownsStatus
    intro v w member
    split at member
    · cases List.mem_singleton.mp member
      rfl
    · contradiction
  unfold refreshActive
  split
  · exact ownsRejectRevoked
  · apply Meets.bind (Q := fun _ => True) (ownsRead fun _ _ => trivial)
    intro user _
    split
    · apply Meets.bind marks
      intro marked _
      split
      · exact rotates
      · exact ownsRejectReuse
    · exact ownsRejectRevoked

theorem ownsGetByTokenHash {tokenHash : PyStr} : Meets (ownContract P) (getByTokenHash env tokenHash)
    fun found => ∀ stored, found = some stored → P stored.familyId stored.userId :=
  ownsRead fun _ owned stored found => owned stored (List.mem_of_find?_eq_some found)

theorem ownsRefresh (rawToken : Option PyStr) : Meets (ownContract P) (refresh env rawToken) (Hands P) := by
  cases rawToken with
  | none => exact .pure (handsRejected _)
  | some rawToken =>
    rw [refresh]
    split
    · exact .pure (handsRejected _)
    · apply Meets.bind ownsHash
      intro tokenHash _
      apply Meets.bind ownsGetByTokenHash
      intro found owned
      unfold refreshStored
      split
      · exact .pure (handsRejected _)
      · rename_i stored
        split
        · exact .pure (handsRejected _)
        · exact ownsRejectReuse
        · exact ownsRefreshActive (owned stored rfl)

theorem ownsRefreshRequest (rawToken : Option PyStr) :
    Meets (ownContract P) (refreshRequest env rawToken) fun _ => True := by
  apply Meets.session fun _ => trivial
  apply Meets.bind (ownsRefresh rawToken)
  intro outcome hands
  unfold answerRefresh
  split
  · exact .bind ownsCommit fun _ _ => .raise
  · rename_i session added
    have owned : ∀ a, some added = some a → P a.row.familyId a.row.userId := by
      intro a same
      cases same
      exact hands session added rfl
    apply Meets.bind (Q := fun _ => True) (ownsRead fun _ _ => trivial)
    intro account _
    split
    · exact ownsCommitSession owned
    · exact .bind (ownsCommitSession owned) fun _ _ => .raise

theorem ownsLogoutRequest (rawToken : Option PyStr) :
    Meets (ownContract P) (logoutRequest env rawToken) fun _ => True := by
  have out : Meets (ownContract P) (logout env rawToken) fun _ => True := by
    cases rawToken with
    | none => exact .pure trivial
    | some rawToken =>
      rw [logout]
      split
      · exact .pure trivial
      · apply Meets.bind ownsHash
        intro tokenHash _
        apply Meets.bind (ownsGetByTokenHash (P := P))
        intro found _
        unfold logoutStored
        split
        · exact .pure trivial
        · split
          · exact ownsRevoke
          · exact .pure trivial
  apply Meets.session fun _ => trivial
  exact .bind out fun _ _ => ownsCommit

theorem ownsIssue {userId : Nat} (owned : P env.newFamilyId userId) :
    Meets (ownContract P) (issueFamily env userId) fun added => P added.row.familyId added.row.userId :=
  .bind ownsHash fun _ _ => .pure owned

end Programs
end SentinelGpt.Sessions
