import SentinelGpt.ReuseDetection

/-! Logout: no credential descended from the one that logged out is active, and rotated
credentials are revoked with their family only, as long as no credential is rotated
between its reading and its revocation. -/
namespace SentinelGpt.Sessions
open ReadCommitted

def unrotated (db : AuthDb) (id : Nat) : Bool :=
  db.sessions.all fun s => s.id != id || s.status != .rotated

def lastOfFamily (db : AuthDb) (id : Nat) : Bool :=
  (db.session? id).all fun row => db.sessions.all fun s =>
    s.id == id || s.familyId != row.familyId || s.status != .active

/- What a revocation by id finds has not been rotated since the request has read it. -/
def notRotatedSince : Event AuthDb SessionWrite AuthSite → Bool
  | .exec (.revokeLogout id) v _ => unrotated v id && lastOfFamily v id
  | .exec (.revokeExpired id) v _ | .exec (.revokeInactive id) v _ => unrotated v id
  | _ => true

def revokesLogout (id : Nat) (e : Event AuthDb SessionWrite AuthSite) : Prop :=
  ∃ v writes, e = .exec (.revokeLogout id) v writes

/- A logout has read the credential as active, and has committed its revocation. -/
def LoggedOut (id : Nat) (trace : List (Nat × Event AuthDb SessionWrite AuthSite)) : Prop :=
  Completed (revokesLogout id) trace

inductive Descends (ws : List SessionWrite) (ancestor : Nat) : Nat → Prop where
  | child {row} (inserted : .insert (some ancestor) row ∈ ws) : Descends ws ancestor row.id
  | further {id row} (before : Descends ws ancestor id) (inserted : .insert (some id) row ∈ ws) :
      Descends ws ancestor row.id

def Ended (db : AuthDb) (id : Nat) : Prop :=
  ∃ row ∈ db.sessions, row.id = id ∧ Dead db row.familyId

def Alone (db : AuthDb) (id : Nat) : Prop :=
  ∃ row ∈ db.sessions, row.id = id ∧ ∀ s ∈ db.sessions, s.familyId = row.familyId → s.id ≠ id →
    s.status ≠ .active

section Families
variable {issued : List (Nat × Nat)} {db : AuthDb} {ws : List SessionWrite} {id : Nat}

theorem endedKept (held : Held issued db ws) (ended : Ended db id) : Ended (after db ws) id := by
  obtain ⟨row, member, same, dead⟩ := ended
  obtain ⟨r, there, sameId, sameFamily⟩ := rowsStay member ws
  exact ⟨r, there, sameId.trans same, sameFamily ▸ deadKept held dead⟩

theorem aloneKept (held : Held issued db ws) (others : ∀ w ∈ ws, w.target ≠ id) (alone : Alone db id) :
    Alone (after db ws) id := by
  obtain ⟨row, member, same, none⟩ := alone
  obtain ⟨r, there, sameId, sameFamily⟩ := rowsStay member ws
  refine ⟨r, there, sameId.trans same, fun s here family other live => ?_⟩
  rw [sameFamily] at family
  rcases activeAfter held here live with ⟨old, -⟩ | ⟨-, parent, inserted⟩
  · exact none s old family other live
  · rcases insertedFamily held inserted with ⟨first, old, firstFamily, firstLive, marked⟩ | fresh
    · exact none first old (firstFamily.trans family) (others _ marked) firstLive
    · exact fresh row member family.symm

theorem aloneRevoked (alone : Alone db id) : Ended (after db [.revoke id]) id := by
  obtain ⟨row, member, same, none⟩ := alone
  obtain ⟨r, there, sameId, sameFamily⟩ := rowsStay member [.revoke id]
  have kinds : ∀ w ∈ [SessionWrite.revoke id], w.isInsert = false := by simp [SessionWrite.isInsert]
  refine ⟨r, there, sameId.trans same, ⟨r, there, rfl⟩, fun s here family live => ?_⟩
  obtain ⟨old, others⟩ := (statusRows _ kinds).2 s here live
  exact none s old (family.trans sameFamily) (Ne.symm (others _ (List.mem_singleton_self _))) live

def ChildOfFamily (db : AuthDb) : SessionWrite → Prop
  | .insert (some parent) row => ∃ p ∈ db.sessions, p.id = parent ∧
      ∃ r ∈ db.sessions, r.id = row.id ∧ r.familyId = p.familyId
  | _ => True

theorem childKept {w : SessionWrite} (child : ChildOfFamily db w) (ws : List SessionWrite) :
    ChildOfFamily (after db ws) w := by
  cases w with
  | insert parent row =>
    cases parent with
    | none => trivial
    | some parent =>
      obtain ⟨p, member, same, r, there, sameRow, family⟩ := child
      obtain ⟨p', member', sameId, sameFamily⟩ := rowsStay member ws
      obtain ⟨r', there', rowId, rowFamily⟩ := rowsStay there ws
      exact ⟨p', member', sameId.trans same, r', there', rowId.trans sameRow,
        rowFamily.trans (family.trans sameFamily.symm)⟩
  | _ => trivial

theorem childHeld (held : Held issued db ws) : ∀ w ∈ ws, ChildOfFamily (after db ws) w := by
  intro w member
  cases held with
  | revokes ids =>
    obtain ⟨i, -, rfl⟩ := List.mem_map.mp member
    trivial
  | marked there active =>
    rw [List.mem_singleton.mp member]
    trivial
  | rotated there active family live new =>
    rename_i row child
    simp only [List.mem_cons, List.not_mem_nil, or_false] at member
    rcases member with rfl | rfl
    · trivial
    · obtain ⟨p, here, sameId, sameFamily⟩ := rowsStay there
        [.markRotated row.id, .insert (some row.id) child]
      exact ⟨p, here, sameId, child, List.mem_append_right _ (List.mem_singleton_self _), rfl,
        family.trans sameFamily.symm⟩
  | issued known live fresh new =>
    rw [List.mem_singleton.mp member]
    trivial

theorem descendsFamily {history : List SessionWrite} (sound : Sound db)
    (children : ∀ w ∈ history, ChildOfFamily db w) {ancestor : Nat} (descends : Descends history ancestor id) :
    ∃ a ∈ db.sessions, a.id = ancestor ∧ ∃ r ∈ db.sessions, r.id = id ∧ r.familyId = a.familyId := by
  induction descends with
  | child inserted => exact children _ inserted
  | further before inserted ih =>
    obtain ⟨a, member, same, r, there, rowId, family⟩ := ih
    obtain ⟨p, here, parent, r', there', rowId', family'⟩ := children _ inserted
    have link : p = r := List.inj_on_of_nodup_map sound.unique here there (parent.trans rowId.symm)
    exact ⟨a, member, same, r', there', rowId', family'.trans (link ▸ family)⟩

end Families

def RevokedByFamily (e : Event AuthDb SessionWrite AuthSite) : Prop :=
  ∀ site v writes, e = .exec site v writes → ∀ s ∈ v.sessions, s.status = .rotated →
    .revoke s.id ∈ writes → ∃ found, site = .revokeFamily s.familyId found

structure Leaving (issued : List (Nat × Nat)) (trace : List (Nat × Event AuthDb SessionWrite AuthSite))
    (t : System AuthDb SessionWrite AuthSite PyError) : Prop where
  kept : Kept issued trace t
  alone : ∀ i id v writes log, own i trace = log ++ [.exec (.revokeLogout id) v writes] →
    staged (own i trace) = [.revoke id] ∧ Alone t.store id
  ended : ∀ id, LoggedOut id trace → Ended t.store id
  children : ∀ w ∈ committed trace, ChildOfFamily t.store w
  families : ∀ i familyId v log, own i trace = log ++ [.exec (.familyRows familyId) v []] →
    staged log = [] → ∀ s ∈ v.sessions, ∃ r ∈ t.store.sessions, r.id = s.id ∧ r.familyId = s.familyId
  revoked : ∀ entry ∈ trace, RevokedByFamily entry.2

section Moves
variable {issued : List (Nat × Nat)} {store : AuthDb} {programs : List (AuthProg Unit)}
  {trace : List (Nat × Event AuthDb SessionWrite AuthSite)}
  {t u : System AuthDb SessionWrite AuthSite PyError} {i : Nat}
  {c : Client AuthDb SessionWrite AuthSite PyError} {e : Event AuthDb SessionWrite AuthSite}

theorem ownEnds {j : Nat} {log : List (Event AuthDb SessionWrite AuthSite)}
    {last : Event AuthDb SessionWrite AuthSite} (ends : own j (trace ++ [(i, e)]) = log ++ [last]) :
    (i = j ∧ log = own i trace ∧ last = e) ∨ (i ≠ j ∧ own j trace = log ++ [last]) := by
  rw [ownSnoc] at ends
  split at ends
  · rename_i same
    subst same
    obtain ⟨rfl, final⟩ := List.append_inj' ends rfl
    exact .inl ⟨rfl, rfl, (List.singleton_inj.mp final).symm⟩
  · rename_i other
    exact .inr ⟨other, ends⟩

theorem viewOpens (run : Run sessionRows (System.start store programs) trace t)
    (found : t.clients[i]? = some c) {site : AuthSite} {v : AuthDb} {writes : List SessionWrite}
    (did : Moved sessionRows t i c (.exec site v writes) u) (opens : staged (own i trace) = []) :
    v = t.store := by
  have pending := pendingIsStaged run i c found
  rw [opens] at pending
  cases did with
  | exec v at_ reads free =>
    rw [pending] at reads
    exact reads

theorem owedLogout {log : List (Event AuthDb SessionWrite AuthSite)} {v : AuthDb} {id : Nat}
    {writes : List SessionWrite} (owed : Owed issued log v (.revokeLogout id) writes) :
    staged log = [] ∧ (∃ familyId, Presented log id familyId) ∧
      (writes = [.revoke id] ∨ v.session? id = none) := by
  generalize same : AuthSite.revokeLogout id = site at owed
  cases owed with
  | nothing reads keeps =>
    subst same
    contradiction
  | missing first at_ presented none =>
    subst same
    obtain rfl := Option.some.inj at_
    exact ⟨first, ⟨_, presented⟩, .inr none⟩
  | revokes first at_ presented =>
    subst same
    obtain rfl := Option.some.inj at_
    exact ⟨first, ⟨_, presented⟩, .inl rfl⟩
  | _ => contradiction

theorem sessionFound {db : AuthDb} (sound : Sound db) {row : RefreshSession}
    (member : row ∈ db.sessions) : db.session? row.id = some row := by
  rw [AuthDb.session?]
  cases found : db.sessions.find? fun s => s.id == row.id with
  | none =>
    have none := List.find?_eq_none.mp found row member
    simp at none
  | some other =>
    have same := List.find?_some found
    rw [List.inj_on_of_nodup_map sound.unique (List.mem_of_find?_eq_some found) member
      (by simpa using same)]

theorem aloneNow (run : Run sessionRows (System.start store programs) trace t)
    (kept : Kept issued trace t) (found : t.clients[i]? = some c) {id : Nat} {v : AuthDb}
    {writes : List SessionWrite} (did : Moved sessionRows t i c (.exec (.revokeLogout id) v writes) u)
    (held : notRotatedSince (.exec (.revokeLogout id) v writes) = true)
    (owed : Owed issued (own i trace) v (.revokeLogout id) writes) :
    staged (own i trace) = [] ∧ writes = [.revoke id] ∧ Alone t.store id := by
  obtain ⟨first, ⟨familyId, v', row, head, there, same, -⟩, revoked⟩ := owedLogout owed
  obtain ⟨r, here, sameId, -⟩ := kept.read i v' _ _ head row there
  have reads := viewOpens run found did first
  have stored := sessionFound kept.sound here
  rw [sameId, same] at stored
  simp only [notRotatedSince, Bool.and_eq_true, lastOfFamily, reads, stored, Option.all_some,
    List.all_eq_true, Bool.or_eq_true, beq_iff_eq, bne_iff_ne] at held
  refine ⟨first, ?_, r, here, sameId.trans same, fun s member family other live => ?_⟩
  · rcases revoked with only | none
    · exact only
    · rw [reads, stored] at none
      contradiction
  · rcases held.2 s member with (mine | away) | inactive
    · exact other mine
    · exact away family
    · exact inactive live

theorem revokedNow (run : Run sessionRows (System.start store programs) trace t)
    (leaving : Leaving issued trace t) (found : t.clients[i]? = some c)
    (did : Moved sessionRows t i c e u) (held : notRotatedSince e = true)
    (owed : ∀ site v writes, e = .exec site v writes → Owed issued (own i trace) v site writes) :
    RevokedByFamily e := by
  rintro site v writes rfl s member rotated revokes
  have owed := owed site v writes rfl
  have opens : staged (own i trace) = [] → v = t.store := viewOpens run found did
  have unmoved : ∀ id, unrotated v id = true → id ≠ s.id := by
    rintro id free rfl
    have none := List.all_eq_true.mp free s member
    simp [rotated] at none
  cases owed with
  | nothing => contradiction
  | missing => contradiction
  | marks => simp at revokes
  | rotates => simp at revokes
  | issues => simp at revokes
  | revokesFamily first presented seen =>
    rename_i id familyId rows
    obtain ⟨v', last, rfl⟩ := seen
    obtain ⟨log, before⟩ : ∃ log, own i trace = log ++ [.exec (.familyRows familyId) v' []] :=
      List.getLast?_eq_some_iff.mp last
    have empty : staged log = [] := by
      rw [before, stagedSnoc] at first
      simpa [stage] using first
    simp only [List.mem_map, SessionWrite.revoke.injEq, exists_eq_right, AuthDb.familyIds,
      List.mem_filter, beq_iff_eq] at revokes
    obtain ⟨s', ⟨there, family⟩, sameId⟩ := revokes
    obtain ⟨r, here, rowId, rowFamily⟩ := leaving.families i familyId v' log before empty s' there
    rw [opens first] at member
    have same := List.inj_on_of_nodup_map leaving.kept.sound.unique here member (rowId.trans sameId)
    exact ⟨_, by rw [← same, rowFamily, family]⟩
  | revokes first at_ presented =>
    rename_i id familyId
    have mine : s.id = id := by simpa using revokes
    have free : unrotated v id = true := by
      cases site <;> simp only [Sessions.revokes, Option.some.injEq, reduceCtorEq] at at_ <;>
        subst at_ <;> simp_all [notRotatedSince]
    exact absurd mine.symm (unmoved id free)

theorem aloneMoved (run : Run sessionRows (System.start store programs) trace t) (leaving : Leaving issued trace t)
    (found : t.clients[i]? = some c) (did : Moved sessionRows t i c e u) (held : notRotatedSince e = true)
    (owed : ∀ site v writes, e = .exec site v writes → Owed issued (own i trace) v site writes)
    {j id : Nat} {v : AuthDb} {writes : List SessionWrite} {log : List (Event AuthDb SessionWrite AuthSite)}
    (ends : own j (trace ++ [(i, e)]) = log ++ [.exec (.revokeLogout id) v writes]) :
    staged (own j (trace ++ [(i, e)])) = [.revoke id] ∧ Alone u.store id := by
  rcases ownEnds ends with ⟨rfl, rfl, rfl⟩ | ⟨other, before⟩
  · obtain ⟨first, rfl, alone⟩ := aloneNow run leaving.kept found did held (owed _ _ _ rfl)
    rw [ends, stagedSnoc, first, movedStore did]
    exact ⟨rfl, alone⟩
  · obtain ⟨same, alone⟩ := leaving.alone j id v writes log before
    rw [ownSnoc, if_neg other, movedStore did]
    refine ⟨same, ?_⟩
    split
    · obtain ⟨d, there⟩ := actorPresent run (show own j trace ≠ [] by rw [before]; simp)
      have apart := disjointOf (locksApart run) other found there
      rw [pendingIsStaged run j d there, same] at apart
      exact aloneKept (leaving.kept.held i c found) (fun w member => apart w member _ (List.mem_singleton_self _)) alone
    · exact alone

theorem endedMoved (run : Run sessionRows (System.start store programs) trace t) (leaving : Leaving issued trace t)
    (found : t.clients[i]? = some c) (did : Moved sessionRows t i c e u) {id : Nat}
    (out : LoggedOut id (trace ++ [(i, e)])) : Ended u.store id := by
  rw [movedStore did]
  rcases completedSnoc out with before | ⟨site, log, last, rfl, ends, v, writes, rfl⟩
  · split
    · exact endedKept (leaving.kept.held i c found) (leaving.ended id before)
    · exact leaving.ended id before
  · obtain ⟨same, alone⟩ := leaving.alone i id v writes log ends
    rw [pendingIsStaged run i c found, same]
    exact aloneRevoked alone

theorem childrenMoved (run : Run sessionRows (System.start store programs) trace t) (leaving : Leaving issued trace t)
    (found : t.clients[i]? = some c) (did : Moved sessionRows t i c e u) :
    ∀ w ∈ committed (trace ++ [(i, e)]), ChildOfFamily u.store w := by
  rw [movedStore did]
  cases commits : e.isCommit with
  | false =>
    rw [committedOther _ _ commits]
    exact leaving.children
  | true =>
    cases did with
    | commit at_ =>
      rw [committedCommit, ← pendingIsStaged run i c found]
      intro w member
      rcases List.mem_append.mp member with old | new
      · exact childKept (leaving.children w old) c.pending
      · exact childHeld (leaving.kept.held i c found) w new
    | _ => contradiction

theorem familiesMoved (run : Run sessionRows (System.start store programs) trace t) (leaving : Leaving issued trace t)
    (found : t.clients[i]? = some c) (did : Moved sessionRows t i c e u) {j familyId : Nat} {v : AuthDb}
    {log : List (Event AuthDb SessionWrite AuthSite)} (opens : staged log = [])
    (ends : own j (trace ++ [(i, e)]) = log ++ [.exec (.familyRows familyId) v []]) :
    ∀ s ∈ v.sessions, ∃ r ∈ u.store.sessions, r.id = s.id ∧ r.familyId = s.familyId := by
  intro s member
  rw [movedStore did]
  rcases ownEnds ends with ⟨rfl, rfl, rfl⟩ | ⟨other, before⟩
  · rw [viewOpens run found did opens] at member
    exact ⟨s, member, rfl, rfl⟩
  · obtain ⟨r, there, sameId, sameFamily⟩ := leaving.families j familyId v log before opens s member
    split
    · obtain ⟨last, here, lastId, lastFamily⟩ := rowsStay there c.pending
      exact ⟨last, here, lastId.trans sameId, lastFamily.trans sameFamily⟩
    · exact ⟨r, there, sameId, sameFamily⟩

theorem leavingMoved (distinct : (issued.map Prod.snd).Nodup)
    (run : Run sessionRows (System.start store programs) trace t) (leaving : Leaving issued trace t)
    (found : t.clients[i]? = some c) (did : Moved sessionRows t i c e u)
    (held : notRotatedSince e = true)
    (owed : (contract issued fun e => notRotatedSince e = true).guarantee (own i trace) e) :
    Leaving issued (trace ++ [(i, e)]) u := by
  have statement : ∀ site v writes, e = .exec site v writes → Owed issued (own i trace) v site writes := by
    rintro site v writes rfl
    exact owed
  constructor
  · exact keptMoved distinct run leaving.kept found did owed
  · exact fun j id v writes log ends => aloneMoved run leaving found did held statement ends
  · exact fun id out => endedMoved run leaving found did out
  · exact childrenMoved run leaving found did
  · exact fun j familyId v log ends opens => familiesMoved run leaving found did opens ends
  · intro entry member
    rcases List.mem_append.mp member with old | new
    · exact leaving.revoked entry old
    · rw [List.mem_singleton.mp new]
      exact revokedNow run leaving found did held statement

end Moves

section Results
variable {requests : List AuthRequest} {store : AuthDb}
  {trace : List (Nat × Event AuthDb SessionWrite AuthSite)}
  {t : System AuthDb SessionWrite AuthSite PyError}

/- Where no credential is rotated between its reading and its revocation by id, none that
descends from a credential that logged out is active in any later state, and a rotated one
is revoked with its whole family only, so that its replay is taken for reuse. -/
theorem logoutEndsDescendants (sound : Sound store) (fresh : FreshFamilies (issuedBy requests) store)
    (run : Run sessionRows (requestSystem store requests) trace t)
    (held : Along (fun _ e => notRotatedSince e = true) trace) :
    (∀ id, LoggedOut id trace → ∀ descendant, Descends (committed trace) id descendant →
      ∀ s ∈ t.store.sessions, s.id = descendant → s.status ≠ .active) ∧
    (∀ entry ∈ trace, RevokedByFamily entry.2) ∧
    ∀ env (stored : RefreshSession), stored.status = .rotated →
      refreshStored env (some stored) = rejectReuse env stored.familyId := by
  have init : Leaving (issuedBy requests) [] (requestSystem store requests) := {
    kept := keptStart sound fresh
    alone := fun i id v writes log ends => by simp at ends
    ended := fun id out => absurd out completedNil
    children := fun w member => by simp at member
    families := fun i familyId v log ends => by simp at ends
    revoked := fun entry member => by contradiction }
  have leaving : Leaving (issuedBy requests) trace t :=
    runGuaranteed (requestsValid requests fun e => notRotatedSince e = true) (fun _ => trivial)
      (Leaving (issuedBy requests)) init
      (fun _ _ _ _ _ _ before leaving found did held owed =>
        leavingMoved fresh.distinct before leaving found did held owed) run held
  refine ⟨fun id out descendant descends s member same => ?_, leaving.revoked, ?_⟩
  · obtain ⟨row, there, rowId, dead⟩ := leaving.ended id out
    obtain ⟨a, here, aId, r, last, rId, family⟩ :=
      descendsFamily leaving.kept.sound leaving.children descends
    have ancestor : a = row :=
      List.inj_on_of_nodup_map leaving.kept.sound.unique here there (aId.trans rowId.symm)
    have mine : s = r :=
      List.inj_on_of_nodup_map leaving.kept.sound.unique member last (same.trans rId.symm)
    exact dead.inactive s member (by rw [mine, family, ancestor])
  · intro env stored rotated
    rw [refreshStored, rotated]

end Results

/-! A logout, and a refresh of the same credential. -/

def logoutRequests : List AuthRequest :=
  [.logout (authEnv 2 (py "b")) (some (py "a")), refreshOf 3 (py "c") (py "a")]

def endsLogout (id : Nat) (trace : List (Nat × Event AuthDb SessionWrite AuthSite)) : Bool :=
  match trace.reverse with
  | (i, .commit _) :: before => match (own i before.reverse).reverse with
    | .exec (.revokeLogout revoked) _ _ :: _ => revoked == id
    | _ => false
  | _ => false

theorem endsLoggedOut {id : Nat} {trace : List (Nat × Event AuthDb SessionWrite AuthSite)}
    (ends : endsLogout id trace = true) : LoggedOut id trace := by
  unfold endsLogout at ends
  split at ends
  · rename_i i site before same
    split at ends
    · rename_i revoked v writes log held
      obtain rfl := beq_iff_eq.mp ends
      have whole : trace = before.reverse ++ [(i, .commit site)] := by
        rw [← List.reverse_reverse trace, same, List.reverse_cons]
      have last : own i before.reverse = log.reverse ++ [.exec (.revokeLogout revoked) v writes] := by
        rw [← List.reverse_reverse (own i before.reverse), held, List.reverse_cons]
      rw [whole]
      exact .commits last ⟨v, writes, rfl⟩
    · contradiction
  · contradiction

def firstChild (parent : Nat) (ws : List SessionWrite) : Option RefreshSession :=
  ws.findSome? fun
    | .insert (some p) row => if p = parent then some row else none
    | _ => none

theorem firstChildDescends {parent : Nat} {ws : List SessionWrite} {row : RefreshSession}
    (found : firstChild parent ws = some row) : Descends ws parent row.id := by
  obtain ⟨w, member, here⟩ := List.exists_of_findSome?_eq_some found
  split at here
  · rename_i p child
    split at here
    · rename_i same
      obtain rfl := Option.some.inj here
      exact .child (same ▸ member)
    · contradiction
  · contradiction

def childLogout : List AuthRequest :=
  [refreshOf 3 (py "c") (py "a"), .logout (authEnv 2 (py "b")) (some (py "c")), refreshOf 4 (py "d") (py "c"),
    refreshOf 5 (py "d") (py "a")]

theorem childLogoutFresh : FreshFamilies (issuedBy childLogout) loggedIn := ⟨by decide, by decide⟩

def childMoves : List Move := List.replicate 6 (.step 0) ++ [.step 1, .step 2] ++ List.replicate 2 (.step 1)

theorem childLogoutEndsDescendants :
    ∃ trace t, Run sessionRows (requestSystem loggedIn childLogout) trace t ∧ LoggedOut 3 trace ∧
      Descends (committed trace) 1 3 ∧ (t.store.sessions.map fun s => (s.id, s.status)) = [(1, .revoked), (3, .revoked)] ∧
      (∀ descendant, Descends (committed trace) 3 descendant →
        ∀ s ∈ t.store.sessions, s.id = descendant → s.status ≠ .active) ∧ ∀ entry ∈ trace, RevokedByFamily entry.2 := by
  have replayed : ((replay sessionRows (requestSystem loggedIn childLogout) childMoves).bind fun (trace, t) =>
      (replay sessionRows t (List.replicate 3 (.step 2) ++ List.replicate 4 (.step 3))).map fun (more, t') =>
        endsLogout 3 trace && (trace ++ more).all (fun entry => notRotatedSince entry.2) &&
          (firstChild 1 (committed (trace ++ more))).map RefreshSession.id == some 3 &&
          (t'.store.sessions.map fun s => (s.id, s.status)) == [(1, .revoked), (3, .revoked)]) = some true := by
    decide +kernel
  obtain ⟨⟨trace, t⟩, ran, rest⟩ := Option.bind_eq_some_iff.mp replayed
  obtain ⟨⟨more, t'⟩, ran', checks⟩ := Option.map_eq_some_iff.mp rest
  simp only [Bool.and_eq_true, List.all_eq_true, beq_iff_eq] at checks
  obtain ⟨⟨⟨ends, held⟩, child⟩, rows⟩ := checks
  obtain ⟨row, found, same⟩ := Option.map_eq_some_iff.mp child
  have run := replayRunFrom (replayRun ran) ran'
  have out : LoggedOut 3 (trace ++ more) := completedGrows (endsLoggedOut ends) more
  obtain ⟨dead, byFamily, -⟩ := logoutEndsDescendants loggedInSound childLogoutFresh run (alongOfMem held)
  exact ⟨trace ++ more, t', run, out, same ▸ firstChildDescends found, rows, dead 3 out, byFamily⟩

/- The logout has read the credential before the refresh, and revokes it after. -/
theorem childOutlivesLogout :
    ∃ trace t, Run sessionRows (requestSystem loggedIn logoutRequests) trace t ∧ LoggedOut 1 trace ∧
      ∃ s ∈ t.store.sessions, Descends (committed trace) 1 s.id ∧ s.status = .active := by
  have replayed : ((replay sessionRows (requestSystem loggedIn logoutRequests)
      ([.step 0] ++ List.replicate 6 (.step 1) ++ List.replicate 2 (.step 0))).map fun (trace, t) =>
        endsLogout 1 trace && (firstChild 1 (committed trace)).any fun row =>
          t.store.sessions.contains row && row.status == .active) = some true := by
    decide +kernel
  obtain ⟨⟨trace, t⟩, ran, checks⟩ := Option.map_eq_some_iff.mp replayed
  simp only [Bool.and_eq_true] at checks
  cases child : firstChild 1 (committed trace) with
  | none =>
    rw [child] at checks
    simp at checks
  | some row =>
    rw [child] at checks
    simp only [Option.any_some, Bool.and_eq_true, List.contains_iff_mem, beq_iff_eq] at checks
    exact ⟨trace, t, replayRun ran, endsLoggedOut checks.1, row, checks.2.1, firstChildDescends child,
      checks.2.2⟩

end SentinelGpt.Sessions
