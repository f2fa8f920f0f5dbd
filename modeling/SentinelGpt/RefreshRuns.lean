import SentinelGpt.RefreshContract

/-! Any number of logins, refreshes and logouts, interleaved: every family has one active
credential at most, and every credential is rotated once at most. -/
namespace SentinelGpt.Sessions
open ReadCommitted

def activeOf (db : AuthDb) (familyId : Nat) : List RefreshSession :=
  db.sessions.filter fun s => s.familyId == familyId && s.status == .active

theorem targetLocked (w : SessionWrite) : .session w.target ∈ w.locks := by
  cases w <;> simp [SessionWrite.target, SessionWrite.locks]

section Rows
variable {db : AuthDb} {ws : List SessionWrite}

abbrev after (db : AuthDb) (ws : List SessionWrite) : AuthDb := view SessionWrite.effect db ws

theorem memSetStatus {rows : List RefreshSession} {id : Nat} {status : SessionStatus}
    {s : RefreshSession} : s ∈ setStatus id status rows ↔
      (s ∈ rows ∧ s.id ≠ id) ∨ ∃ r ∈ rows, r.id = id ∧ s = { r with status := status } := by
  simp only [setStatus, updateRow, List.mem_map]
  constructor
  · rintro ⟨r, member, rfl⟩
    by_cases here : r.id = id
    · exact .inr ⟨r, member, here, by rw [if_pos here]⟩
    · rw [if_neg here]
      exact .inl ⟨member, here⟩
  · rintro (⟨member, other⟩ | ⟨r, member, here, rfl⟩)
    · exact ⟨s, member, if_neg other⟩
    · exact ⟨r, member, if_pos here⟩

theorem effectStatus (db : AuthDb) {w : SessionWrite} (status : w.isInsert = false) :
    ((w.effect db).sessions.map fun s => (s.id, s.familyId)) =
        db.sessions.map (fun s => (s.id, s.familyId)) ∧
      ∀ s ∈ (w.effect db).sessions, s.status = .active → s ∈ db.sessions ∧ s.id ≠ w.target := by
  have ids : ∀ id status, (setStatus id status db.sessions).map (fun s => (s.id, s.familyId)) =
      db.sessions.map fun s => (s.id, s.familyId) := by
    intro id status
    simp only [setStatus, updateRow, List.map_map]
    refine List.map_congr_left fun s _ => ?_
    simp only [Function.comp_apply]
    split <;> rfl
  have kept : ∀ id status, status ≠ .active → ∀ s ∈ setStatus id status db.sessions,
      s.status = .active → s ∈ db.sessions ∧ s.id ≠ id := by
    intro id status other s member active
    rcases memSetStatus.mp member with old | ⟨r, -, -, rfl⟩
    · exact old
    · exact absurd active other
  cases w with
  | insert parent row => contradiction
  | markRotated id => exact ⟨ids id _, kept id _ (by decide)⟩
  | revoke id => exact ⟨ids id _, kept id _ (by decide)⟩

theorem statusRows (db : AuthDb) (status : ∀ w ∈ ws, w.isInsert = false) :
    ((after db ws).sessions.map fun s => (s.id, s.familyId)) =
        db.sessions.map (fun s => (s.id, s.familyId)) ∧
      ∀ s ∈ (after db ws).sessions, s.status = .active →
        s ∈ db.sessions ∧ ∀ w ∈ ws, w.target ≠ s.id := by
  induction ws generalizing db with
  | nil => exact ⟨rfl, fun s member _ => ⟨member, by simp⟩⟩
  | cons w rest ih =>
    obtain ⟨here, there⟩ := List.forall_mem_cons.mp status
    obtain ⟨same, kept⟩ := effectStatus db here
    obtain ⟨same', kept'⟩ := @ih (w.effect db) there
    rw [after, viewCons]
    refine ⟨same'.trans same, fun s member active => ?_⟩
    obtain ⟨before, others⟩ := kept' s member active
    obtain ⟨old, other⟩ := kept s before active
    exact ⟨old, List.forall_mem_cons.mpr ⟨Ne.symm other, others⟩⟩

theorem memKept {s : RefreshSession} (member : s ∈ db.sessions)
    (others : ∀ w ∈ ws, w.target ≠ s.id) : s ∈ (after db ws).sessions := by
  induction ws generalizing db with
  | nil => exact member
  | cons w rest ih =>
    obtain ⟨here, there⟩ := List.forall_mem_cons.mp others
    rw [after, viewCons]
    refine ih ?_ there
    cases w with
    | insert parent row => exact List.mem_append_left _ member
    | markRotated id => exact memSetStatus.mpr (.inl ⟨member, Ne.symm here⟩)
    | revoke id => exact memSetStatus.mpr (.inl ⟨member, Ne.symm here⟩)

theorem memAfter {s : RefreshSession} (member : s ∈ (after db ws).sessions) :
    (∃ r ∈ db.sessions, r.id = s.id ∧ r.familyId = s.familyId) ∨
      ∃ parent row, .insert parent row ∈ ws ∧ row.id = s.id ∧ row.familyId = s.familyId := by
  induction ws generalizing db with
  | nil => exact .inl ⟨s, member, rfl, rfl⟩
  | cons w rest ih =>
    rw [after, viewCons] at member
    have set : ∀ id status, (∃ r ∈ setStatus id status db.sessions, r.id = s.id ∧
        r.familyId = s.familyId) → ∃ r ∈ db.sessions, r.id = s.id ∧ r.familyId = s.familyId := by
      rintro id status ⟨r, old, sameId, sameFamily⟩
      rcases memSetStatus.mp old with ⟨same, -⟩ | ⟨first, same, -, rfl⟩
      · exact ⟨r, same, sameId, sameFamily⟩
      · exact ⟨first, same, sameId, sameFamily⟩
    rcases ih member with ⟨r, before, sameId, sameFamily⟩ | ⟨parent, row, inserted, sameId, sameFamily⟩
    · cases w with
      | insert parent row =>
        rcases List.mem_append.mp before with old | new
        · exact .inl ⟨r, old, sameId, sameFamily⟩
        · rw [List.mem_singleton.mp new] at sameId sameFamily
          exact .inr ⟨parent, row, List.mem_cons_self, sameId, sameFamily⟩
      | markRotated id => exact .inl (set id _ ⟨r, before, sameId, sameFamily⟩)
      | revoke id => exact .inl (set id _ ⟨r, before, sameId, sameFamily⟩)
    · exact .inr ⟨parent, row, List.mem_cons_of_mem _ inserted, sameId, sameFamily⟩

theorem rowsStay {s : RefreshSession} (member : s ∈ db.sessions) (ws : List SessionWrite) :
    ∃ r ∈ (after db ws).sessions, r.id = s.id ∧ r.familyId = s.familyId := by
  induction ws generalizing db s with
  | nil => exact ⟨s, member, rfl, rfl⟩
  | cons w rest ih =>
    rw [after, viewCons]
    have set : ∀ id status, ∃ r ∈ setStatus id status db.sessions, r.id = s.id ∧
        r.familyId = s.familyId := by
      intro id status
      by_cases here : s.id = id
      · exact ⟨_, memSetStatus.mpr (.inr ⟨s, member, here, rfl⟩), rfl, rfl⟩
      · exact ⟨s, memSetStatus.mpr (.inl ⟨member, here⟩), rfl, rfl⟩
    have now : ∃ r ∈ (w.effect db).sessions, r.id = s.id ∧ r.familyId = s.familyId := by
      cases w with
      | insert parent row => exact ⟨s, List.mem_append_left _ member, rfl, rfl⟩
      | markRotated id => exact set id _
      | revoke id => exact set id _
    obtain ⟨r, here, sameId, sameFamily⟩ := now
    obtain ⟨last, there, lastId, lastFamily⟩ := ih here
    exact ⟨last, there, lastId.trans sameId, lastFamily.trans sameFamily⟩

end Rows

/-! The store between requests, and what a request in flight holds. -/

/- The ids are a primary key, and a family has one active credential at most. -/
structure Sound (db : AuthDb) : Prop where
  unique : (db.sessions.map RefreshSession.id).Nodup
  single : ∀ r ∈ db.sessions, ∀ s ∈ db.sessions, r.familyId = s.familyId → r.status = .active →
    s.status = .active → r.id = s.id

/- The families of the logins are new, each of one login: `uuid.uuid4()`. -/
structure FreshFamilies (issued : List (Nat × Nat)) (db : AuthDb) : Prop where
  distinct : (issued.map Prod.snd).Nodup
  unused : ∀ entry ∈ issued, ∀ s ∈ db.sessions, s.familyId ≠ entry.2

def Rooted (issued : List (Nat × Nat)) (db : AuthDb) : Prop :=
  ∀ entry ∈ issued, ∀ s ∈ db.sessions, s.familyId = entry.2 → ∃ r ∈ db.sessions, r.id = entry.1

inductive Held (issued : List (Nat × Nat)) (db : AuthDb) : List SessionWrite → Prop where
  | revokes (ids : List Nat) : Held issued db (ids.map .revoke)
  | marked {row} (member : row ∈ db.sessions) (active : row.status = .active) :
      Held issued db [.markRotated row.id]
  | rotated {row child} (member : row ∈ db.sessions) (active : row.status = .active)
      (family : child.familyId = row.familyId) (live : child.status = .active)
      (new : ∀ s ∈ db.sessions, s.id ≠ child.id) :
      Held issued db [.markRotated row.id, .insert (some row.id) child]
  | issued {row} (known : (row.id, row.familyId) ∈ issued) (live : row.status = .active)
      (fresh : ∀ s ∈ db.sessions, s.familyId ≠ row.familyId) (new : ∀ s ∈ db.sessions, s.id ≠ row.id) :
      Held issued db [.insert none row]

def Disjoint (ws qs : List SessionWrite) : Prop := ∀ w ∈ ws, ∀ q ∈ qs, w.target ≠ q.target

section Commits
variable {issued : List (Nat × Nat)} {db : AuthDb} {ws qs : List SessionWrite}

theorem sameIssue (distinct : (issued.map Prod.snd).Nodup) {entry entry' : Nat × Nat}
    (member : entry ∈ issued) (member' : entry' ∈ issued) (same : entry.2 = entry'.2) :
    entry = entry' :=
  List.inj_on_of_nodup_map distinct member member' same

theorem heldRooted (distinct : (issued.map Prod.snd).Nodup) (rooted : Rooted issued db)
    (held : Held issued db ws) : Rooted issued (after db ws) := by
  intro entry known s member family
  have stays : ∀ r ∈ db.sessions, r.id = entry.1 → ∃ r ∈ (after db ws).sessions, r.id = entry.1 := by
    intro r there id
    obtain ⟨last, here, sameId, -⟩ := rowsStay there ws
    exact ⟨last, here, sameId.trans id⟩
  have old : ∀ r ∈ db.sessions, r.familyId = entry.2 → ∃ r ∈ (after db ws).sessions, r.id = entry.1 := by
    intro r there family
    obtain ⟨root, here, id⟩ := rooted entry known r there family
    exact stays root here id
  rcases memAfter member with ⟨r, there, -, sameFamily⟩ | ⟨parent, row, inserted, sameId, sameFamily⟩
  · exact old r there (sameFamily.trans family)
  · cases held with
    | revokes ids => simp at inserted
    | marked there active => simp at inserted
    | rotated there active same live new =>
      simp only [List.mem_cons, List.not_mem_nil, or_false, reduceCtorEq, false_or,
        SessionWrite.insert.injEq] at inserted
      obtain ⟨-, rfl⟩ := inserted
      exact old _ there (same.symm.trans (sameFamily.trans family))
    | issued mine live fresh new =>
      simp only [List.mem_singleton, SessionWrite.insert.injEq] at inserted
      obtain ⟨-, rfl⟩ := inserted
      have same := sameIssue distinct mine known (sameFamily.trans family)
      exact ⟨s, member, by rw [← sameId, ← same]⟩

theorem statusSound (sound : Sound db) (status : ∀ w ∈ ws, w.isInsert = false) :
    Sound (after db ws) := by
  obtain ⟨same, kept⟩ := statusRows db status
  constructor
  · have ids := congrArg (List.map Prod.fst) same
    simp only [List.map_map] at ids
    have unique := sound.unique
    rwa [show RefreshSession.id = Prod.fst ∘ fun s : RefreshSession => (s.id, s.familyId) from rfl,
      ← ids] at unique
  · intro r member s member' family active active'
    exact sound.single r (kept r member active).1 s (kept s member' active').1 family active active'

theorem insertSound (sound : Sound db) (parent : Option Nat) {row : RefreshSession}
    (new : ∀ s ∈ db.sessions, s.id ≠ row.id)
    (only : ∀ s ∈ db.sessions, s.familyId = row.familyId → s.status ≠ .active) :
    Sound (after db [.insert parent row]) := by
  have rows : ∀ s ∈ (after db [.insert parent row]).sessions, s ∈ db.sessions ∨ s = row :=
    fun s member => (List.mem_append.mp member).imp_right List.mem_singleton.mp
  constructor
  · show (List.map RefreshSession.id (db.sessions ++ [row])).Nodup
    rw [List.map_append, List.nodup_append]
    refine ⟨sound.unique, List.nodup_singleton _, ?_⟩
    intro id old id' mine
    obtain ⟨s, member, rfl⟩ := List.mem_map.mp old
    rw [List.map_singleton, List.mem_singleton] at mine
    exact mine ▸ new s member
  · intro r member s member' family active active'
    rcases rows r member with old | rfl <;> rcases rows s member' with old' | rfl
    · exact sound.single r old s old' family active active'
    · exact absurd active (only r old family)
    · exact absurd active' (only s old' family.symm)
    · rfl

theorem heldSound (sound : Sound db) (held : Held issued db ws) : Sound (after db ws) := by
  cases held with
  | revokes ids => exact statusSound sound (by simp [SessionWrite.isInsert])
  | marked member active => exact statusSound sound (by simp [SessionWrite.isInsert])
  | rotated member active family live new =>
    rename_i row child
    have marks : ∀ w ∈ [SessionWrite.markRotated row.id], w.isInsert = false := by
      simp [SessionWrite.isInsert]
    obtain ⟨-, kept⟩ := statusRows db marks
    have marked : Sound (after db [.markRotated row.id]) := statusSound sound marks
    refine insertSound marked (some row.id) ?_ ?_
    · intro s there
      rcases memAfter there with ⟨r, old, sameId, -⟩ | ⟨parent, r, inserted, -⟩
      · exact sameId ▸ new r old
      · simp at inserted
    · intro s there same live'
      obtain ⟨old, others⟩ := kept s there live'
      have here := sound.single s old row member (same.trans family) live' active
      exact others _ (List.mem_singleton_self _) here.symm
  | issued known live fresh new =>
    exact insertSound sound none new fun s member family => absurd family (fresh s member)

theorem heldKept (distinct : (issued.map Prod.snd).Nodup) (held : Held issued db qs)
    (committed : Held issued db ws) (apart : Disjoint ws qs) : Held issued (after db ws) qs := by
  have others : ∀ {id : Nat}, (∃ q ∈ qs, q.target = id) → ∀ w ∈ ws, w.target ≠ id := by
    rintro id ⟨q, member, rfl⟩ w there
    exact apart w there q member
  have stillNew : ∀ {id : Nat}, (∃ q ∈ qs, q.target = id) → (∀ s ∈ db.sessions, s.id ≠ id) →
      ∀ s ∈ (after db ws).sessions, s.id ≠ id := by
    intro id mine new s member
    rcases memAfter member with ⟨r, old, sameId, -⟩ | ⟨parent, row, inserted, sameId, -⟩
    · exact sameId ▸ new r old
    · exact sameId ▸ others mine _ inserted
  cases held with
  | revokes ids => exact .revokes ids
  | marked member active =>
    exact .marked (memKept member (others ⟨_, List.mem_cons_self, rfl⟩)) active
  | rotated member active family live new =>
    refine .rotated (memKept member (others ⟨_, List.mem_cons_self, rfl⟩)) active family live ?_
    exact stillNew ⟨_, List.mem_cons_of_mem _ List.mem_cons_self, rfl⟩ new
  | issued known live fresh new =>
    rename_i row
    have mine : ∃ q ∈ [SessionWrite.insert none row], q.target = row.id :=
      ⟨_, List.mem_cons_self, rfl⟩
    refine .issued known live (fun s member => ?_) (stillNew mine new)
    rcases memAfter member with ⟨r, old, -, sameFamily⟩ | ⟨parent, other, inserted, -, sameFamily⟩
    · exact sameFamily ▸ fresh r old
    · rw [← sameFamily]
      cases committed with
      | revokes ids => simp at inserted
      | marked there active => simp at inserted
      | rotated there active family live' new' =>
        simp only [List.mem_cons, List.not_mem_nil, or_false, reduceCtorEq, false_or,
          SessionWrite.insert.injEq] at inserted
        obtain ⟨-, rfl⟩ := inserted
        rw [family]
        exact fresh _ there
      | issued known' live' fresh' new' =>
        simp only [List.mem_singleton, SessionWrite.insert.injEq] at inserted
        obtain ⟨-, rfl⟩ := inserted
        intro same
        have entries := sameIssue distinct known' known same
        exact others mine _ List.mem_cons_self (congrArg Prod.fst entries)

end Commits

def isRotationOf (id : Nat) : SessionWrite → Bool
  | .insert (some parent) _ => parent == id
  | _ => false

def rotationsOf (id : Nat) (trace : List (Nat × Event AuthDb SessionWrite AuthSite)) :
    List SessionWrite :=
  (committed trace).filter (isRotationOf id)

structure Spent (db : AuthDb) (id : Nat) : Prop where
  present : ∃ s ∈ db.sessions, s.id = id
  inactive : ∀ s ∈ db.sessions, s.id = id → s.status ≠ .active

structure Kept (issued : List (Nat × Nat)) (trace : List (Nat × Event AuthDb SessionWrite AuthSite))
    (t : System AuthDb SessionWrite AuthSite PyError) : Prop where
  sound : Sound t.store
  rooted : Rooted issued t.store
  held : ∀ (i : Nat) (c : Client AuthDb SessionWrite AuthSite PyError), t.clients[i]? = some c →
    Held issued t.store c.pending
  read : ∀ i v site writes, (own i trace).head? = some (.exec site v writes) → ∀ s ∈ v.sessions,
    ∃ r ∈ t.store.sessions, r.id = s.id ∧ r.familyId = s.familyId
  once : ∀ id, (rotationsOf id trace).length ≤ 1 ∧ (rotationsOf id trace ≠ [] → Spent t.store id)

section Runs
variable {issued : List (Nat × Nat)} {store : AuthDb}

theorem activeFound {db : AuthDb} {id : Nat} (active : isActive db id = true) :
    ∃ row ∈ db.sessions, row.id = id ∧ row.status = .active := by
  unfold isActive at active
  cases found : db.session? id with
  | none =>
    rw [found] at active
    contradiction
  | some row =>
    rw [found] at active
    have same := List.find?_some found
    exact ⟨row, List.mem_of_find?_eq_some found, by simpa using same, by simpa using active⟩

theorem noConflict {db : AuthDb} {row : RefreshSession} (new : conflicts db row = false) :
    ∀ s ∈ db.sessions, s.id ≠ row.id := by
  intro s member same
  simp only [conflicts, Bool.or_eq_false_iff, Option.isSome_eq_false_iff, Option.isNone_iff_eq_none] at new
  have none := List.find?_eq_none.mp new.1 s member
  simp [same] at none

theorem owedHeld {log : List (Event AuthDb SessionWrite AuthSite)} {site : AuthSite}
    {writes : List SessionWrite} (sound : Sound store) (rooted : Rooted issued store)
    (held : Held issued store (staged log))
    (owed : Owed issued log (after store (staged log)) site writes)
    (read : ∀ v site writes, log.head? = some (.exec site v writes) → ∀ s ∈ v.sessions,
      ∃ r ∈ store.sessions, r.id = s.id ∧ r.familyId = s.familyId) :
    Held issued store (staged log ++ writes) := by
  cases owed with
  | nothing => rwa [List.append_nil]
  | missing => rwa [List.append_nil]
  | marks first presented active =>
    rw [first] at active ⊢
    obtain ⟨row, member, rfl, live⟩ := activeFound active
    exact .marked member live
  | rotates marked presented live new =>
    rename_i id child
    obtain ⟨v, row, head, there, sameId, sameFamily⟩ := presented
    obtain ⟨r, here, id', family⟩ := read v _ _ head row there
    rw [marked] at held new ⊢
    have unused : ∀ s ∈ store.sessions, s.id ≠ child.id := by
      intro s member
      obtain ⟨r, here, same, -⟩ := rowsStay member [.markRotated id]
      exact same ▸ noConflict new r here
    generalize pending : [SessionWrite.markRotated id] = staged at held
    cases held with
    | revokes ids =>
      cases ids with
      | nil => contradiction
      | cons => simp at pending
    | marked member active =>
      rename_i stored
      simp only [List.cons.injEq, SessionWrite.markRotated.injEq, and_true] at pending
      have same : r = stored :=
        List.inj_on_of_nodup_map sound.unique here member (id'.trans (sameId.trans pending))
      rw [pending]
      exact .rotated member active (by rw [← same, family, sameFamily]) live unused
    | rotated => simp at pending
    | issued => simp at pending
  | issues first known live new =>
    rename_i row
    rw [first] at new ⊢
    have unused := noConflict new
    refine .issued known live (fun s member same => ?_) unused
    obtain ⟨r, there, id⟩ := rooted _ known s member same
    exact unused r there id
  | revokesFamily first => rw [first]; exact .revokes _
  | @revokes site id familyId first => rw [first]; exact .revokes [id]

theorem activeAfter {db : AuthDb} {ws : List SessionWrite} (held : Held issued db ws)
    {r : RefreshSession} (member : r ∈ (after db ws).sessions) (live : r.status = .active) :
    (r ∈ db.sessions ∧ ∀ w ∈ ws, w.target ≠ r.id) ∨
      ((∀ s ∈ db.sessions, s.id ≠ r.id) ∧ ∃ parent, .insert parent r ∈ ws) := by
  have status : (∀ w ∈ ws, w.isInsert = false) → r ∈ db.sessions ∧ ∀ w ∈ ws, w.target ≠ r.id :=
    fun kind => (statusRows _ kind).2 r member live
  cases held with
  | revokes ids => exact .inl (status (by simp [SessionWrite.isInsert]))
  | marked there active => exact .inl (status (by simp [SessionWrite.isInsert]))
  | rotated there active family live' new =>
    rename_i row child
    rcases List.mem_append.mp member with old | mine
    · have marks : ∀ w ∈ [SessionWrite.markRotated row.id], w.isInsert = false := by
        simp [SessionWrite.isInsert]
      obtain ⟨before, others⟩ := (statusRows db marks).2 r old live
      refine .inl ⟨before, List.forall_mem_cons.mpr ⟨others _ (List.mem_singleton_self _), ?_⟩⟩
      simpa [SessionWrite.target] using Ne.symm (new r before)
    · obtain rfl := List.mem_singleton.mp mine
      exact .inr ⟨new, some row.id, by simp⟩
  | issued known live' fresh new =>
    rcases List.mem_append.mp member with old | mine
    · refine .inl ⟨old, ?_⟩
      simpa [SessionWrite.target] using Ne.symm (new r old)
    · obtain rfl := List.mem_singleton.mp mine
      exact .inr ⟨new, none, by simp⟩

theorem rotationsHeld {db : AuthDb} {ws : List SessionWrite} (held : Held issued db ws) (id : Nat) :
    ws.filter (isRotationOf id) = [] ∨ ((ws.filter (isRotationOf id)).length = 1 ∧
      ∃ row ∈ db.sessions, row.id = id ∧ row.status = .active ∧ .markRotated id ∈ ws) := by
  cases held with
  | revokes ids =>
    refine .inl (List.filter_eq_nil_iff.mpr fun w member => ?_)
    obtain ⟨i, -, rfl⟩ := List.mem_map.mp member
    simp [isRotationOf]
  | marked => exact .inl rfl
  | rotated member active family live new =>
    rename_i row child
    by_cases same : row.id = id
    · subst same
      exact .inr ⟨by simp [isRotationOf], row, member, rfl, active, by simp⟩
    · exact .inl (by simp [isRotationOf, same])
  | issued => exact .inl rfl

theorem spentKept {db : AuthDb} {ws : List SessionWrite} (held : Held issued db ws) {id : Nat}
    (spent : Spent db id) : Spent (after db ws) id := by
  obtain ⟨s, member, same⟩ := spent.present
  constructor
  · obtain ⟨r, there, sameId, -⟩ := rowsStay member ws
    exact ⟨r, there, sameId.trans same⟩
  · intro r there here live
    rcases activeAfter held there live with ⟨old, -⟩ | ⟨new, -⟩
    · exact spent.inactive r old here live
    · exact new s member (same.trans here.symm)

theorem spentRotated {db : AuthDb} {ws : List SessionWrite} (held : Held issued db ws)
    {row : RefreshSession} (member : row ∈ db.sessions) (marked : .markRotated row.id ∈ ws) :
    Spent (after db ws) row.id := by
  constructor
  · obtain ⟨r, there, sameId, -⟩ := rowsStay member ws
    exact ⟨r, there, sameId⟩
  · intro r there here live
    rcases activeAfter held there live with ⟨-, others⟩ | ⟨new, -⟩
    · exact others _ marked here.symm
    · exact new row member here.symm

theorem rotationsKept {db : AuthDb} {ws before : List SessionWrite} (held : Held issued db ws) (id : Nat)
    (once : (before.filter (isRotationOf id)).length ≤ 1 ∧
      (before.filter (isRotationOf id) ≠ [] → Spent db id)) :
    ((before ++ ws).filter (isRotationOf id)).length ≤ 1 ∧
      ((before ++ ws).filter (isRotationOf id) ≠ [] → Spent (after db ws) id) := by
  obtain ⟨count, spent⟩ := once
  rw [List.filter_append]
  rcases rotationsHeld held id with none | ⟨one, row, member, rfl, live, marked⟩
  · rw [none, List.append_nil]
    exact ⟨count, fun some => spentKept held (spent some)⟩
  · have unspent : before.filter (isRotationOf row.id) = [] := by
      by_contra some
      exact (spent some).inactive row member rfl live
    rw [unspent, List.nil_append]
    exact ⟨one.le, fun _ => spentRotated held member marked⟩

theorem disjointOf {t : System AuthDb SessionWrite AuthSite PyError} (apart : Apart sessionRows t)
    {i j : Nat} {c d : Client AuthDb SessionWrite AuthSite PyError} (other : i ≠ j)
    (found : t.clients[i]? = some c) (found' : t.clients[j]? = some d) :
    Disjoint c.pending d.pending := by
  intro w member q member' same
  refine apart i j c d other found found' (.session w.target)
    (List.mem_flatMap.mpr ⟨w, member, targetLocked w⟩) ?_
  rw [same]
  exact List.mem_flatMap.mpr ⟨q, member', targetLocked q⟩

theorem headMoved {j i : Nat} {v : AuthDb} {site : AuthSite} {writes : List SessionWrite}
    {trace : List (Nat × Event AuthDb SessionWrite AuthSite)} {e : Event AuthDb SessionWrite AuthSite}
    (head : (own j (trace ++ [(i, e)])).head? = some (.exec site v writes)) :
    (own j trace).head? = some (.exec site v writes) ∨
      (own j trace = [] ∧ i = j ∧ e = .exec site v writes) := by
  rw [ownSnoc] at head
  split at head
  · rename_i same
    cases before : own j trace with
    | nil =>
      rw [before] at head
      exact .inr ⟨rfl, same, Option.some.inj head⟩
    | cons first rest =>
      rw [before] at head
      exact .inl head
  · exact .inl head

section Moves
variable {programs : List (AuthProg Unit)} {trace : List (Nat × Event AuthDb SessionWrite AuthSite)}
  {t u : System AuthDb SessionWrite AuthSite PyError} {i : Nat}
  {c : Client AuthDb SessionWrite AuthSite PyError} {e : Event AuthDb SessionWrite AuthSite}
  {assume : Event AuthDb SessionWrite AuthSite → Prop}

theorem soundMoved (distinct : (issued.map Prod.snd).Nodup) (kept : Kept issued trace t)
    (found : t.clients[i]? = some c) (did : Moved sessionRows t i c e u) : Sound u.store ∧ Rooted issued u.store := by
  rw [movedStore did]
  split
  · exact ⟨heldSound kept.sound (kept.held i c found), heldRooted distinct kept.rooted (kept.held i c found)⟩
  · exact ⟨kept.sound, kept.rooted⟩

theorem heldMoved (distinct : (issued.map Prod.snd).Nodup)
    (run : Run sessionRows (System.start store programs) trace t) (kept : Kept issued trace t)
    (found : t.clients[i]? = some c) (did : Moved sessionRows t i c e u)
    (owed : (contract issued assume).guarantee (own i trace) e) :
    ∀ (j : Nat) (d : Client AuthDb SessionWrite AuthSite PyError), u.clients[j]? = some d →
      Held issued u.store d.pending := by
  have mine := kept.held i c found
  apply movedEach (fun _ d => Held issued u.store d.pending) found did
  · intro d pending
    rw [pending, movedStore did]
    cases did with
    | exec v at_ reads free =>
      rw [pendingIsStaged run i c found] at reads mine ⊢
      rw [reads] at owed ⊢
      exact owedHeld kept.sound kept.rooted mine owed (kept.read i)
    | call at_ => exact mine
    | commit at_ => exact .revokes []
    | rollback at_ => exact .revokes []
    | crash => exact .revokes []
  · intro j d other there
    rw [movedStore did]
    split
    · exact heldKept distinct (kept.held j d there) mine (disjointOf (locksApart run) (Ne.symm other) found there)
    · exact kept.held j d there

/- The first statement of a request reads the store as it is. -/
theorem readMoved (run : Run sessionRows (System.start store programs) trace t) (kept : Kept issued trace t)
    (found : t.clients[i]? = some c) (did : Moved sessionRows t i c e u) {j : Nat} {v : AuthDb} {site : AuthSite}
    {writes : List SessionWrite} (head : (own j (trace ++ [(i, e)])).head? = some (.exec site v writes)) :
    ∀ s ∈ v.sessions, ∃ r ∈ u.store.sessions, r.id = s.id ∧ r.familyId = s.familyId := by
  intro s member
  rw [movedStore did]
  rcases headMoved head with before | ⟨none, rfl, rfl⟩
  · obtain ⟨r, there, sameId, sameFamily⟩ := kept.read j v site writes before s member
    split
    · obtain ⟨last, here, lastId, lastFamily⟩ := rowsStay there c.pending
      exact ⟨last, here, lastId.trans sameId, lastFamily.trans sameFamily⟩
    · exact ⟨r, there, sameId, sameFamily⟩
  · cases did with
    | exec v at_ reads free =>
      rw [reads, pendingIsStaged run i c found, none] at member
      exact ⟨s, member, rfl, rfl⟩

theorem onceMoved (run : Run sessionRows (System.start store programs) trace t) (kept : Kept issued trace t)
    (found : t.clients[i]? = some c) (did : Moved sessionRows t i c e u) (id : Nat) :
    (rotationsOf id (trace ++ [(i, e)])).length ≤ 1 ∧
      (rotationsOf id (trace ++ [(i, e)]) ≠ [] → Spent u.store id) := by
  rw [movedStore did]
  cases ends : e.isCommit with
  | true =>
    cases did with
    | commit at_ =>
      rw [rotationsOf, committedCommit, ← pendingIsStaged run i c found]
      exact rotationsKept (kept.held i c found) id (kept.once id)
    | _ => contradiction
  | false =>
    rw [rotationsOf, committedOther _ _ ends]
    exact kept.once id

theorem keptMoved (distinct : (issued.map Prod.snd).Nodup)
    (run : Run sessionRows (System.start store programs) trace t) (kept : Kept issued trace t)
    (found : t.clients[i]? = some c) (did : Moved sessionRows t i c e u)
    (owed : (contract issued assume).guarantee (own i trace) e) : Kept issued (trace ++ [(i, e)]) u := by
  obtain ⟨sound, rooted⟩ := soundMoved distinct kept found did
  exact {
    sound := sound
    rooted := rooted
    held := heldMoved distinct run kept found did owed
    read := fun j v site writes head => readMoved run kept found did head
    once := onceMoved run kept found did }

end Moves

end Runs

def issuedBy (requests : List AuthRequest) : List (Nat × Nat) := requests.filterMap AuthRequest.issues?

def requestSystem (store : AuthDb) (requests : List AuthRequest) :
    System AuthDb SessionWrite AuthSite PyError :=
  System.start store (requests.map AuthRequest.program)

theorem requestsValid (requests : List AuthRequest) (assume : Event AuthDb SessionWrite AuthSite → Prop) :
    ∀ p ∈ requests.map AuthRequest.program,
      wp (contract (issuedBy requests) assume) [] p fun _ _ => True := by
  intro p member
  obtain ⟨request, here, rfl⟩ := List.mem_map.mp member
  exact requestsKeep request fun entry issues => List.mem_filterMap.mpr ⟨request, here, issues⟩

section Results
variable {requests : List AuthRequest} {store : AuthDb}
  {trace : List (Nat × Event AuthDb SessionWrite AuthSite)}
  {t : System AuthDb SessionWrite AuthSite PyError}

theorem keptStart (sound : Sound store) (fresh : FreshFamilies (issuedBy requests) store) :
    Kept (issuedBy requests) [] (requestSystem store requests) where
  sound := sound
  rooted entry known s member same := absurd same (fresh.unused entry known s member)
  held i c found := by
    simp only [requestSystem, System.start, List.getElem?_map, Option.map_eq_some_iff] at found
    obtain ⟨p, -, rfl⟩ := found
    exact .revokes []
  read i v site writes head := by contradiction
  once id := ⟨Nat.zero_le 1, fun some => absurd rfl some⟩

theorem keptRun (sound : Sound store) (fresh : FreshFamilies (issuedBy requests) store)
    (run : Run sessionRows (requestSystem store requests) trace t) : Kept (issuedBy requests) trace t :=
  runGuaranteed (requestsValid requests fun _ => True) (fun _ => trivial) (Kept (issuedBy requests))
    (keptStart sound fresh)
    (fun _ _ _ _ _ _ before kept found did _ owed => keptMoved fresh.distinct before kept found did owed)
    run (fun _ _ _ _ _ => trivial)

theorem activeOnce {db : AuthDb} (sound : Sound db) (familyId : Nat) :
    (activeOf db familyId).length ≤ 1 := by
  have unique : ((activeOf db familyId).map RefreshSession.id).Nodup :=
    List.Nodup.sublist (List.filter_sublist.map _) sound.unique
  cases rows : activeOf db familyId with
  | nil => exact Nat.zero_le 1
  | cons r rest =>
    cases rest with
    | nil => exact Nat.le_refl 1
    | cons s rest =>
      have members : ∀ x ∈ activeOf db familyId, x ∈ db.sessions ∧ x.familyId = familyId ∧
          x.status = .active := by
        intro x member
        simpa [activeOf] using member
      obtain ⟨first, family, live⟩ := members r (by simp [rows])
      obtain ⟨second, family', live'⟩ := members s (by simp [rows])
      have same := sound.single r first s second (family.trans family'.symm) live live'
      rw [rows] at unique
      simp [same] at unique

/- At every moment of a run, in the store and as every transaction sees it, a family has
one active credential at most, and no credential has been rotated twice. -/
theorem oneActivePerFamily (sound : Sound store) (fresh : FreshFamilies (issuedBy requests) store)
    (run : Run sessionRows (requestSystem store requests) trace t) :
    (∀ familyId, (activeOf t.store familyId).length ≤ 1) ∧
      (∀ (i : Nat) (c : Client AuthDb SessionWrite AuthSite PyError), t.clients[i]? = some c →
        ∀ familyId, (activeOf (after t.store c.pending) familyId).length ≤ 1) ∧
      ∀ id, (rotationsOf id trace).length ≤ 1 := by
  have kept := keptRun sound fresh run
  exact ⟨activeOnce kept.sound, fun i c found => activeOnce (heldSound kept.sound (kept.held i c found)),
    fun id => (kept.once id).1⟩

end Results

/-! Two refreshes of one credential, one after the other's commit. -/

def credential (id familyId : Nat) (tokenHash : PyStr) (status : SessionStatus) : RefreshSession :=
  ⟨id, 1, familyId, tokenHash, status, 1000⟩

def tokenPython : Python :=
  Python.onAscii [(py "a", "ha"), (py "b", "hb"), (py "c", "hc"), (py "d", "hd")]

def authEnv (newId : Nat) (rawToken : PyStr) : AuthEnv where
  python := tokenPython
  now _ := 1
  newId := newId
  newFamilyId := newId
  rawToken := rawToken
  refreshTtlDays := 7
  fault _ := none

def refreshOf (newId : Nat) (newToken : PyStr) (token : PyStr) : AuthRequest :=
  .refresh (authEnv newId newToken) (some token)

def loggedIn : AuthDb := ⟨[credential 1 1 (py "ha") .active], [⟨1, true⟩]⟩

theorem loggedInSound : Sound loggedIn :=
  ⟨by decide, by decide⟩

def raceRequests : List AuthRequest := [refreshOf 2 (py "b") (py "a"), refreshOf 3 (py "c") (py "a")]

def raceMoves : List Move :=
  [.step 0, .step 1, .step 0, .step 1, .step 0, .step 0, .step 0, .step 0, .step 1]

theorem raceRotatesOnce :
    ∃ trace t, Run sessionRows (requestSystem loggedIn raceRequests) trace t ∧
      (rotationsOf 1 trace).length = 1 ∧ ∀ familyId, (activeOf t.store familyId).length ≤ 1 := by
  have replayed : ((replay sessionRows (requestSystem loggedIn raceRequests) raceMoves).map
      fun (trace, _) => (rotationsOf 1 trace).length == 1) = some true := by
    decide +kernel
  obtain ⟨⟨trace, t⟩, ran, once⟩ := Option.map_eq_some_iff.mp replayed
  have fresh : FreshFamilies (issuedBy raceRequests) loggedIn := ⟨by decide, by decide⟩
  exact ⟨trace, t, replayRun ran, by simpa using once,
    (oneActivePerFamily loggedInSound fresh (replayRun ran)).1⟩

end SentinelGpt.Sessions
