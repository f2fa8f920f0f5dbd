import SentinelGpt.TenancyRequests

/-! The audit log as a journal of the seats: read entry by entry it tells the role of every
user in every organization, after any requests that are served one after another. -/
namespace SentinelGpt.Tenancy
open ReadCommitted

def Role.ofText (text : PyStr) : Option Role := [Role.admin, Role.member].find? fun role => role.text == text

theorem roleRead (role : Role) : Role.ofText role.text = some role := by
  cases role <;> decide

def Store.seatOf (db : Store) (organizationId userId : Nat) : Option Role :=
  (db.getMembership organizationId userId).map Membership.role

def AuditRow.text (row : AuditRow) (key : PyStr) : Option PyStr := (row.metadataJson.lookup key).join

def AuditRow.tells (row : AuditRow) (organizationId userId : Nat) (before : Option Role) : Option Role :=
  if row.entityType ≠ py "organization" ∨ row.entityId ≠ organizationId then before
  else if row.actionCode = py "ORGANIZATION_CREATED" then
    if row.actorUserId = some userId then some .admin else before
  else if (row.text (py "memberUserId")).bind readUuid ≠ some userId then before
  else if row.actionCode = py "MEMBER_REMOVED" then none
  else if row.actionCode = py "MEMBER_ADDED" ∨ row.actionCode = py "MEMBER_ROLE_CHANGED" then
    (row.text (py "role")).bind Role.ofText
  else before

def journal (log : List AuditRow) (organizationId userId : Nat) (before : Option Role) : Option Role :=
  log.foldl (fun role row => row.tells organizationId userId role) before

def AuditRow.Says (row : AuditRow) (organizationId userId : Nat) (role : Option Role) : Prop :=
  ∀ organization user before, user < 2 ^ 128 →
    row.tells organization user before = if organization = organizationId ∧ user = userId then role else before

section Entries
variable {organizationId actor userId : Nat} {now : Time}

theorem createdSays {name : PyStr} :
    AuditRow.Says ⟨some actor, py "ORGANIZATION_CREATED", py "organization", organizationId,
      [(py "name", some name)], now⟩ organizationId actor (some .admin) := by
  intro organization user before _
  unfold AuditRow.tells
  by_cases here : organizationId = organization
  · by_cases mine : actor = user
    · simp [here, mine]
    · simp [here, mine, Ne.symm mine]
  · simp [here, Ne.symm here]

theorem tellsMember (row : AuditRow) {organization user : Nat} {before : Option Role}
    (entity : row.entityType = py "organization") (other : row.actionCode ≠ py "ORGANIZATION_CREATED")
    (named : row.text (py "memberUserId") = some (uuidText userId)) (small : userId < 2 ^ 128) :
    row.tells organization user before = if organization = row.entityId ∧ user = userId then
      if row.actionCode = py "MEMBER_REMOVED" then none
      else if row.actionCode = py "MEMBER_ADDED" ∨ row.actionCode = py "MEMBER_ROLE_CHANGED" then
        (row.text (py "role")).bind Role.ofText
      else before
    else before := by
  unfold AuditRow.tells
  rw [named, Option.bind_some, uuidRead small, entity]
  by_cases here : organization = row.entityId
  · by_cases mine : user = userId
    · simp [here, mine, other]
    · simp [here, mine, Ne.symm mine, other]
  · simp [here, Ne.symm here]

theorem memberSays {actionCode : PyStr} {role : Role} (small : userId < 2 ^ 128)
    (known : actionCode = py "MEMBER_ADDED" ∨ actionCode = py "MEMBER_ROLE_CHANGED") :
    AuditRow.Says ⟨some actor, actionCode, py "organization", organizationId, memberEntries userId role, now⟩
      organizationId userId (some role) := by
  intro organization user before _
  have other : actionCode ≠ py "ORGANIZATION_CREATED" := by
    rcases known with rfl | rfl <;> decide
  have stays : actionCode ≠ py "MEMBER_REMOVED" := by
    rcases known with rfl | rfl <;> decide
  rw [tellsMember _ rfl other rfl small]
  simp only [stays, known, if_true, if_false]
  rw [show (AuditRow.text ⟨some actor, actionCode, py "organization", organizationId, memberEntries userId role, now⟩
    (py "role")).bind Role.ofText = some role from roleRead role]

theorem removedSays (small : userId < 2 ^ 128) :
    AuditRow.Says ⟨some actor, py "MEMBER_REMOVED", py "organization", organizationId,
      [(py "memberUserId", some (uuidText userId))], now⟩ organizationId userId none := by
  intro organization user before _
  have other : py "MEMBER_REMOVED" ≠ py "ORGANIZATION_CREATED" := by decide
  rw [tellsMember _ rfl other rfl small, if_pos rfl]

end Entries

structure Sound (db : Store) : Prop where
  small : ∀ user ∈ db.users, user.id < 2 ^ 128
  seated : ∀ m ∈ db.memberships, m.userId < 2 ^ 128
  one : ∀ m ∈ db.memberships, ∀ m' ∈ db.memberships, m.organizationId = m'.organizationId →
    m.userId = m'.userId → m.id = m'.id

/- From a state to one in which one seat has changed, and the journal does not tell it yet. -/
structure Reseats (db db' : Store) (organizationId userId : Nat) (role : Option Role) : Prop where
  sound : Sound db'
  log : db'.auditLog = db.auditLog
  seat : ∀ organization user, db'.seatOf organization user =
    if organization = organizationId ∧ user = userId then role else db.seatOf organization user

/- From a state to a later one, by what the journal tells of it. -/
structure Journaled (db db' : Store) : Prop where
  sound : Sound db'
  told : ∃ added, db'.auditLog = db.auditLog ++ added ∧ ∀ organization user, user < 2 ^ 128 →
    db'.seatOf organization user = journal added organization user (db.seatOf organization user)

section Seats
variable {db : Store}

theorem journaledRefl (sound : Sound db) : Journaled db db :=
  ⟨sound, [], by simp, fun _ _ _ => rfl⟩

theorem journaledTrans {first second third : Store} (earlier : Journaled first second)
    (later : Journaled second third) : Journaled first third := by
  obtain ⟨added, log, seats⟩ := earlier.told
  obtain ⟨added', log', seats'⟩ := later.told
  refine ⟨later.sound, added ++ added', by rw [log', log, List.append_assoc], ?_⟩
  intro organization user small
  rw [seats' organization user small, seats organization user small, journal, journal, journal, List.foldl_append]

theorem reseatsTold {db' : Store} {organizationId userId : Nat} {role : Option Role} {row : AuditRow}
    (reseats : Reseats db db' organizationId userId role) (tells : row.Says organizationId userId role) :
    Journaled db ((Write.insertAudit row).effect db') := by
  refine ⟨⟨reseats.sound.small, reseats.sound.seated, reseats.sound.one⟩, [row], ?_, ?_⟩
  · simp only [Write.effect, reseats.log]
  · intro organization user small
    rw [journal, List.foldl_cons, List.foldl_nil, tells organization user _ small]
    exact reseats.seat organization user

theorem seatInserted {row : Membership} (sound : Sound db) (free : db.refusesMembership row = false) :
    Reseats db ((Write.insertMembership row).effect db) row.organizationId row.userId (some row.role) := by
  simp only [Store.refusesMembership, Bool.or_eq_false_iff] at free
  obtain ⟨⟨⟨-, unseated⟩, -⟩, known⟩ := free
  have none : db.getMembership row.organizationId row.userId = none := by
    simpa [Store.isMember] using unseated
  have absent : ∀ m ∈ db.memberships, m.organizationId = row.organizationId → m.userId ≠ row.userId := by
    intro m member organization user
    have no := List.find?_eq_none.mp none m member
    simp [organization, user] at no
  have small : row.userId < 2 ^ 128 := by
    cases found : db.user? row.userId with
    | none =>
      rw [found] at known
      contradiction
    | some user =>
      have named : user.id = row.userId := by simpa using List.find?_some found
      exact named ▸ sound.small user (List.mem_of_find?_eq_some found)
  constructor
  · constructor
    · exact sound.small
    · intro m member
      rcases List.mem_append.mp member with old | new
      · exact sound.seated m old
      · cases List.mem_singleton.mp new
        exact small
    · intro m member m' member' organization user
      rcases List.mem_append.mp member with old | new <;> rcases List.mem_append.mp member' with old' | new'
      · exact sound.one m old m' old' organization user
      · cases List.mem_singleton.mp new'
        exact absurd user (absent m old organization)
      · cases List.mem_singleton.mp new
        exact absurd user.symm (absent m' old' organization.symm)
      · cases List.mem_singleton.mp new
        cases List.mem_singleton.mp new'
        rfl
  · rfl
  · intro organization user
    unfold Store.seatOf Store.getMembership
    simp only [Write.effect, List.find?_append]
    by_cases here : organization = row.organizationId ∧ user = row.userId
    · obtain ⟨rfl, rfl⟩ := here
      rw [Store.getMembership] at none
      simp [none]
    · have other : (row.organizationId == organization && row.userId == user) = false := by
        rw [Bool.and_eq_false_iff, beq_eq_false_iff_ne, beq_eq_false_iff_ne]
        by_contra both
        simp only [not_or, not_not] at both
        exact here ⟨both.1.symm, both.2.symm⟩
      simp [here, other]

theorem seatKept {organizationId userId : Nat} {role : Option Role} (sound : Sound db)
    (known : db.seatOf organizationId userId = role) : Reseats db db organizationId userId role := by
  refine ⟨sound, rfl, ?_⟩
  intro organization user
  split
  · rename_i here
    rw [here.1, here.2, known]
  · rfl

theorem seatFounded {db' : Store} {org : Organization} {organizationId userId : Nat} {role : Option Role}
    (reseats : Reseats ((Write.insertOrganization org).effect db) db' organizationId userId role) :
    Reseats db db' organizationId userId role :=
  ⟨reseats.sound, reseats.log, reseats.seat⟩

theorem seatNamed {organizationId userId : Nat} {row : Membership}
    (found : db.getMembership organizationId userId = some row) :
    row.organizationId = organizationId ∧ row.userId = userId := by
  simpa using List.find?_some found

theorem sameSeat {row m : Membership} (same : row.same m = true) :
    m.id = row.id ∧ m.organizationId = row.organizationId ∧ m.userId = row.userId := by
  simp only [Membership.same, Bool.and_eq_true, beq_iff_eq] at same
  exact ⟨same.1.1, same.1.2, same.2⟩

theorem seatUpdated {organizationId userId : Nat} {row : Membership} (sound : Sound db)
    (found : db.getMembership organizationId userId = some row) (role : Role) :
    Reseats db ((Write.updateMembership row role).effect db) organizationId userId (some role) := by
  have named := seatNamed found
  have fixed : ∀ m : Membership, (if row.same m then { m with role := role } else m).id = m.id ∧
      (if row.same m then { m with role := role } else m).organizationId = m.organizationId ∧
      (if row.same m then { m with role := role } else m).userId = m.userId := by
    intro m
    split <;> exact ⟨rfl, rfl, rfl⟩
  constructor
  · constructor
    · exact sound.small
    · intro m member
      obtain ⟨old, there, rfl⟩ := List.mem_map.mp member
      rw [(fixed old).2.2]
      exact sound.seated old there
    · intro m member m' member' organization user
      obtain ⟨old, there, rfl⟩ := List.mem_map.mp member
      obtain ⟨old', there', rfl⟩ := List.mem_map.mp member'
      rw [(fixed old).2.1, (fixed old').2.1] at organization
      rw [(fixed old).2.2, (fixed old').2.2] at user
      rw [(fixed old).1, (fixed old').1]
      exact sound.one old there old' there' organization user
  · rfl
  · intro organization user
    have keys : ((fun m : Membership => m.organizationId == organization && m.userId == user) ∘
        fun m => if row.same m then { m with role := role } else m) =
        fun m => m.organizationId == organization && m.userId == user := by
      funext m
      simp only [Function.comp, (fixed m).2.1, (fixed m).2.2]
    unfold Store.seatOf Store.getMembership
    simp only [Write.effect, List.find?_map, keys]
    by_cases here : organization = organizationId ∧ user = userId
    · obtain ⟨rfl, rfl⟩ := here
      rw [Store.getMembership] at found
      have self : row.same row = true := by simp [Membership.same]
      simp [found, self]
    · rw [if_neg here]
      cases other : db.memberships.find? fun m => m.organizationId == organization && m.userId == user with
      | none => rfl
      | some m =>
        have keyed := List.find?_some other
        simp only [Bool.and_eq_true, beq_iff_eq] at keyed
        have differs : row.same m = false := by
          apply Bool.eq_false_iff.mpr
          intro same
          obtain ⟨-, sameOrganization, sameUser⟩ := sameSeat same
          exact here ⟨keyed.1.symm.trans (sameOrganization.trans named.1), keyed.2.symm.trans (sameUser.trans named.2)⟩
        simp [differs]

theorem findKept {α : Type} {keep key : α → Bool} {rows : List α} (kept : ∀ row ∈ rows, key row = true → keep row = true) :
    (rows.filter keep).find? key = rows.find? key := by
  induction rows with
  | nil => rfl
  | cons row rest ih =>
    have tail := ih fun r member => kept r (List.mem_cons_of_mem _ member)
    cases keyed : key row with
    | true => simp [kept row List.mem_cons_self keyed, keyed]
    | false =>
      rw [List.filter_cons]
      split <;> simp [keyed, tail]

theorem seatDeleted {organizationId userId : Nat} {row : Membership} (sound : Sound db)
    (found : db.getMembership organizationId userId = some row) :
    Reseats db ((Write.deleteMembership row).effect db) organizationId userId none := by
  have named := seatNamed found
  have there := List.mem_of_find?_eq_some found
  constructor
  · constructor
    · exact sound.small
    · exact fun m member => sound.seated m (List.mem_filter.mp member).1
    · exact fun m member m' member' => sound.one m (List.mem_filter.mp member).1 m' (List.mem_filter.mp member').1
  · rfl
  · intro organization user
    unfold Store.seatOf Store.getMembership
    simp only [Write.effect]
    by_cases here : organization = organizationId ∧ user = userId
    · obtain ⟨rfl, rfl⟩ := here
      have gone : (db.memberships.filter fun m => !row.same m).find?
          (fun m => m.organizationId == organization && m.userId == user) = none := by
        apply List.find?_eq_none.mpr
        intro m member keyed
        obtain ⟨stays, other⟩ := List.mem_filter.mp member
        simp only [Bool.and_eq_true, beq_iff_eq] at keyed
        -- There is no other row of this seat.
        have same := sound.one m stays row there (keyed.1.trans named.1.symm) (keyed.2.trans named.2.symm)
        rw [Membership.same, same, keyed.1, keyed.2, named.1, named.2] at other
        simp at other
      simp [gone]
    · rw [if_neg here, findKept]
      intro m _ keyed
      simp only [Bool.and_eq_true, beq_iff_eq] at keyed
      cases same : row.same m with
      | false => rfl
      | true =>
        obtain ⟨-, sameOrganization, sameUser⟩ := sameSeat same
        exact absurd ⟨keyed.1.symm.trans (sameOrganization.trans named.1),
          keyed.2.symm.trans (sameUser.trans named.2)⟩ here

def Write.aside : Write → Prop
  | .insertTarget _ | .updateTarget _ _ | .insertAttestation _ | .updateAttestation _ _ _ => True
  | .insertAudit row => row.entityType = py "authorization_attestation"
  | _ => False

theorem asideJournaled (sound : Sound db) {w : Write} (aside : w.aside) : Journaled db (w.effect db) := by
  cases w with
  | insertAudit row =>
    refine ⟨⟨sound.small, sound.seated, sound.one⟩, [row], rfl, ?_⟩
    intro organization user _
    have silent : ∀ before, row.tells organization user before = before := by
      intro before
      have other : row.entityType ≠ py "organization" := by
        rw [show row.entityType = _ from aside]
        decide
      simp [AuditRow.tells, other]
    rw [journal, List.foldl_cons, List.foldl_nil, silent]
    rfl
  | insertTarget row => exact ⟨⟨sound.small, sound.seated, sound.one⟩, [], (List.append_nil _).symm, fun _ _ _ => rfl⟩
  | updateTarget id isArchived => exact ⟨⟨sound.small, sound.seated, sound.one⟩, [], (List.append_nil _).symm, fun _ _ _ => rfl⟩
  | insertAttestation row => exact ⟨⟨sound.small, sound.seated, sound.one⟩, [], (List.append_nil _).symm, fun _ _ _ => rfl⟩
  | updateAttestation id revokedAt revokedReason => exact ⟨⟨sound.small, sound.seated, sound.one⟩, [], (List.append_nil _).symm, fun _ _ _ => rfl⟩
  | _ => exact aside.elim

theorem asidesJournaled {ws : List Write} (asides : ∀ w ∈ ws, w.aside) (sound : Sound db) :
    Journaled db (view Write.effect db ws) := by
  induction ws generalizing db with
  | nil => exact journaledRefl sound
  | cons w rest ih =>
    have first := asideJournaled sound (asides w List.mem_cons_self)
    rw [viewCons]
    exact journaledTrans first (ih (fun x member => asides x (List.mem_cons_of_mem _ member)) first.sound)

end Seats
end SentinelGpt.Tenancy
