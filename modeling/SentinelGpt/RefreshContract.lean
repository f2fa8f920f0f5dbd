import SentinelGpt.RefreshSessions

/-! What every statement of the session requests stages, after the statements of its own
request before it. -/
namespace SentinelGpt.Sessions
open ReadCommitted

def Presented (log : List (Event AuthDb SessionWrite AuthSite)) (id familyId : Nat) : Prop :=
  ∃ v row, log.head? = some (.exec .getByTokenHash v []) ∧ row ∈ v.sessions ∧ row.id = id ∧
    row.familyId = familyId

def revokes : AuthSite → Option Nat
  | .revokeExpired id | .revokeInactive id | .revokeLogout id => some id
  | _ => none

/- The writes of a statement, by its site. Every transaction makes one change of the
credentials that are there, and a rotation adds the child to it. -/
inductive Owed (issued : List (Nat × Nat)) (log : List (Event AuthDb SessionWrite AuthSite))
    (v : AuthDb) : AuthSite → List SessionWrite → Prop where
  | nothing {site} (reads : ∀ familyId found, site ≠ .revokeFamily familyId found)
      (keeps : revokes site = none) : Owed issued log v site []
  | missing {site id familyId} (first : staged log = []) (at_ : revokes site = some id)
      (presented : Presented log id familyId) (none : v.session? id = none) : Owed issued log v site []
  | marks {id familyId} (first : staged log = []) (presented : Presented log id familyId)
      (active : isActive v id = true) : Owed issued log v .tryMarkRotated [.markRotated id]
  | rotates {id child} (marked : staged log = [.markRotated id])
      (presented : Presented log id child.familyId) (live : child.status = .active)
      (new : conflicts v child = false) : Owed issued log v .flush [.insert (some id) child]
  | issues {row} (first : staged log = []) (known : (row.id, row.familyId) ∈ issued)
      (live : row.status = .active) (new : conflicts v row = false) :
      Owed issued log v .flush [.insert none row]
  | revokesFamily {id familyId found} (first : staged log = []) (presented : Presented log id familyId)
      (seen : ∃ v', log.getLast? = some (.exec (.familyRows familyId) v' []) ∧
        found = v'.familyIds familyId) :
      Owed issued log v (.revokeFamily familyId found) (found.map .revoke)
  | revokes {site id familyId} (first : staged log = []) (at_ : revokes site = some id)
      (presented : Presented log id familyId) : Owed issued log v site [.revoke id]

def contract (issued : List (Nat × Nat)) (assume : Event AuthDb SessionWrite AuthSite → Prop) :
    Contract AuthDb SessionWrite AuthSite where
  assume _ := assume
  guarantee log
    | .exec site v writes => Owed issued log v site writes
    | _ => True

section Rules
variable {issued : List (Nat × Nat)} {assume : Event AuthDb SessionWrite AuthSite → Prop}
  {env : AuthEnv} {α β : Type} {log : List (Event AuthDb SessionWrite AuthSite)}
  {post : List (Event AuthDb SessionWrite AuthSite) → Except PyError α → Prop}

theorem wpStatement {site : AuthSite} {writes : AuthDb → List SessionWrite} {result : AuthDb → α}
    (owed : ∀ v, Owed issued log v site (writes v))
    (next : ∀ v, post (log ++ [.exec site v (writes v)]) (.ok (result v)))
    (fails : ∀ e, post log (.error e)) :
    wp (contract issued assume) log (env.statement site writes result) post := by
  unfold AuthEnv.statement
  split
  · exact fails _
  · exact fun v _ => ⟨owed v, next v⟩

theorem wpRead {site : AuthSite} {result : AuthDb → α}
    (reads : ∀ familyId found, site ≠ .revokeFamily familyId found) (keeps : revokes site = none)
    (next : ∀ v, post (log ++ [.exec site v []]) (.ok (result v)))
    (fails : ∀ e, post log (.error e)) :
    wp (contract issued assume) log (env.read site result) post :=
  wpStatement (fun _ => .nothing reads keeps) next fails

theorem wpCommit {site : AuthSite}
    {post : List (Event AuthDb SessionWrite AuthSite) → Except PyError Unit → Prop}
    (next : post (log ++ [.commit site]) (.ok ())) (fails : ∀ e, post log (.error e)) :
    wp (contract issued assume) log (env.commit site) post := by
  unfold AuthEnv.commit
  split
  · exact fails _
  · exact fun _ => ⟨trivial, next⟩

theorem wpHash {rawToken : PyStr}
    {post : List (Event AuthDb SessionWrite AuthSite) → Except PyError PyStr → Prop}
    (next : ∀ hash, post log (.ok hash)) (fails : ∀ e, post log (.error e)) :
    wp (contract issued assume) log (hashRefreshToken env rawToken) post := by
  unfold hashRefreshToken
  split
  · exact next _
  · exact fails _

theorem wpThen {p : AuthProg α} {k : α → AuthProg β}
    {post : List (Event AuthDb SessionWrite AuthSite) → Except PyError β → Prop}
    (first : wp (contract issued assume) log p fun log r => match r with
      | .ok a => wp (contract issued assume) log (k a) post
      | .error e => post log (.error e)) :
    wp (contract issued assume) log (p >>= k) post :=
  wpBind.mpr (wpMono (fun log r holds => by cases r <;> exact holds) first)

theorem wpSession {p : AuthProg α} (body : wp (contract issued assume) log p fun _ _ => True) :
    wp (contract issued assume) log p.session fun _ _ => True := by
  refine wpBind.mpr (wpTryCatch.mpr (wpMono (fun log r _ => ?_) body))
  cases r with
  | ok a => exact fun _ => ⟨trivial, trivial⟩
  | error e => exact fun _ => ⟨trivial, trivial⟩

end Rules

section Requests
variable {issued : List (Nat × Nat)} {assume : Event AuthDb SessionWrite AuthSite → Prop}
  {env : AuthEnv} {log : List (Event AuthDb SessionWrite AuthSite)}

theorem presentedSnoc {id familyId : Nat} (presented : Presented log id familyId)
    (e : Event AuthDb SessionWrite AuthSite) : Presented (log ++ [e]) id familyId := by
  obtain ⟨v, row, head, member, same, family⟩ := presented
  refine ⟨v, row, ?_, member, same, family⟩
  cases log with
  | nil => contradiction
  | cons first rest => exact head

theorem stagedRead {site : AuthSite} {v : AuthDb} (pending : List SessionWrite)
    (same : staged log = pending) : staged (log ++ [.exec site v []]) = pending := by
  rw [stagedSnoc, same]
  exact List.append_nil pending

theorem wpRejectReuse {id familyId : Nat} (first : staged log = []) (presented : Presented log id familyId)
    {post : List (Event AuthDb SessionWrite AuthSite) → Except PyError RefreshOutcome → Prop}
    (rejects : ∀ log rejection, post log (.ok (.rejected rejection)))
    (fails : ∀ log e, post log (.error e)) :
    wp (contract issued assume) log (rejectReuse env familyId) post := by
  refine wpThen (wpThen (wpRead (by simp) rfl (fun v => ?_) fun e => fails _ e))
  refine wpStatement (fun v' => ?_) (fun v' => rejects _ _) fun e => fails _ e
  exact .revokesFamily (stagedRead [] first) (presentedSnoc presented _)
    ⟨v, List.getLast?_concat, rfl⟩

theorem wpRevoke {site : AuthSite} {id familyId : Nat} (at_ : revokes site = some id)
    (first : staged log = []) (presented : Presented log id familyId)
    {post : List (Event AuthDb SessionWrite AuthSite) → Except PyError Unit → Prop}
    (next : ∀ log, post log (.ok ())) (fails : ∀ log e, post log (.error e)) :
    wp (contract issued assume) log (revokeSession env site id) post := by
  refine wpStatement (fun v => ?_) (fun v => next _) fun e => fails _ e
  split
  · exact .revokes first at_ presented
  · rename_i none
    exact .missing first at_ presented (by simpa using none)

def Prepared (log : List (Event AuthDb SessionWrite AuthSite)) : Except PyError RefreshOutcome → Prop
  | .ok (.rotated _ added) => ∃ id, staged log = [.markRotated id] ∧ added.parent = some id ∧
      Presented log id added.row.familyId ∧ added.row.status = .active
  | _ => True

theorem wpRefreshActive {stored : RefreshSession} (first : staged log = [])
    (presented : Presented log stored.id stored.familyId) :
    wp (contract issued assume) log (refreshActive env stored) Prepared := by
  have revoked : ∀ site log, revokes site = some stored.id → staged log = [] →
      Presented log stored.id stored.familyId → ∀ rejection,
      wp (contract issued assume) log (rejectRevoked env site stored.id rejection) Prepared :=
    fun site log at_ first presented rejection =>
      wpThen (wpRevoke at_ first presented (fun _ => trivial) fun _ _ => trivial)
  unfold refreshActive
  split
  · exact revoked _ _ rfl first presented _
  refine wpThen (wpRead (by simp) rfl (fun v => ?_) fun e => trivial)
  have still : staged (log ++ [.exec .getUser v []]) = [] := stagedRead [] first
  have presented := presentedSnoc presented (.exec .getUser v [])
  simp only
  split
  · unfold refreshEligible
    refine wpThen (wpStatement (fun w => ?_) (fun w => ?_) fun e => trivial)
    · split
      · rename_i active
        exact .marks still presented active
      · exact .nothing (by simp) rfl
    · cases active : isActive w stored.id with
      | true =>
        refine wpThen (wpHash (fun hash => ?_) fun e => trivial)
        refine ⟨stored.id, ?_, rfl, presentedSnoc presented _, rfl⟩
        rw [stagedSnoc, still]
        rfl
      | false =>
        exact wpRejectReuse (stagedRead [] still) (presentedSnoc presented _) (fun _ _ => trivial)
          fun _ _ => trivial
  · exact revoked _ _ rfl still presented _

theorem presentedFound {v : AuthDb} {hash : PyStr} {stored : RefreshSession}
    (found : v.byTokenHash hash = some stored) :
    Presented [.exec .getByTokenHash v []] stored.id stored.familyId :=
  ⟨v, stored, rfl, List.mem_of_find?_eq_some found, rfl, rfl⟩

theorem wpRefresh (rawToken : Option PyStr) :
    wp (contract issued assume) [] (refresh env rawToken) Prepared := by
  cases rawToken with
  | none => exact trivial
  | some raw =>
    simp only [refresh]
    split
    · exact trivial
    refine wpThen (wpHash (fun hash => ?_) fun e => trivial)
    refine wpThen (wpRead (by simp) rfl (fun v => ?_) fun e => trivial)
    cases found : v.byTokenHash hash with
    | none => exact trivial
    | some stored =>
      simp only [refreshStored]
      split
      · exact trivial
      · exact wpRejectReuse rfl (presentedFound found) (fun _ _ => trivial) fun _ _ => trivial
      · exact wpRefreshActive rfl (presentedFound found)

theorem wpFlush {added : AddedSession} {site : AuthSite}
    (owed : ∀ v, conflicts v added.row = false →
      Owed issued log v .flush [.insert added.parent added.row]) :
    wp (contract issued assume) log (commitSession env site (some added)) fun _ _ => True := by
  refine wpThen (wpThen (wpStatement (fun v => ?_) (fun v => ?_) fun e => trivial))
  · cases new : conflicts v added.row with
    | true => exact .nothing (by simp) rfl
    | false => exact owed v new
  · cases conflicts v added.row with
    | true => exact trivial
    | false => exact wpCommit trivial fun e => trivial

theorem requestsKeep (request : AuthRequest)
    (issues : ∀ entry, request.issues? = some entry → entry ∈ issued) :
    wp (contract issued assume) [] request.program fun _ _ => True := by
  cases request with
  | login env userId =>
    refine wpSession (wpThen (wpRead (by simp) rfl (fun v => ?_) fun e => trivial))
    refine wpThen (wpThen (wpHash (fun hash => ?_) fun e => trivial))
    exact wpFlush fun w new => .issues rfl (issues _ rfl) rfl new
  | refresh env rawToken =>
    refine wpSession (wpThen (wpMono (fun log r prepared => ?_) (wpRefresh rawToken)))
    cases r with
    | error e => trivial
    | ok outcome =>
      cases outcome with
      | rejected rejection => exact wpThen (wpCommit trivial fun e => trivial)
      | rotated session added =>
        obtain ⟨id, marked, parent, presented, live⟩ := prepared
        refine wpThen (wpRead (by simp) rfl (fun v => ?_) fun e => trivial)
        have owed : ∀ w, conflicts w added.row = false → Owed issued (log ++ [.exec .getAccount v []]) w
            .flush [.insert added.parent added.row] := by
          intro w new
          rw [parent]
          exact .rotates (stagedRead _ marked) (presentedSnoc presented _) live new
        simp only
        split
        · exact wpFlush owed
        · exact wpThen (wpMono (fun log r _ => by cases r <;> trivial) (wpFlush owed))
  | logout env rawToken =>
    refine wpSession (wpThen ?_)
    have commits : ∀ log, wp (contract issued assume) log (env.commit .requestCommit) fun _ _ => True :=
      fun log => wpCommit trivial fun e => trivial
    cases rawToken with
    | none => exact commits _
    | some raw =>
      simp only [logout]
      split
      · exact commits _
      refine wpThen (wpHash (fun hash => ?_) fun e => trivial)
      refine wpThen (wpRead (by simp) rfl (fun v => ?_) fun e => trivial)
      cases found : v.byTokenHash hash with
      | none => exact commits _
      | some stored =>
        simp only [logoutStored]
        split
        · exact wpRevoke rfl rfl (presentedFound found) commits fun _ _ => trivial
        · exact commits _

end Requests
end SentinelGpt.Sessions
