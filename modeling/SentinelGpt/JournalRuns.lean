import SentinelGpt.MembershipJournal
import SentinelGpt.TenancyRuns

/-! Requests served one after another, whatever their failures: the audit log tells the
seats of every organization. Requests that overlap can make it wrong. -/
namespace SentinelGpt.Tenancy
open ReadCommitted TargetPages

def serve (store : Store) (call : Call) : Store := (solo Write.effect call.program store []).store

def serveAll (store : Store) (calls : List Call) : Store := calls.foldl serve store

section Programs
variable {env : Env} {store : Store} {pending : List Write} {user : Nat} {α : Type}

theorem yieldsStatement (site : Site) (writes : Store → List Write) (result : Store → α) :
    Yields Write.effect (env.statement site writes result) store pending fun staged a =>
      staged = pending ++ writes (view Write.effect store pending) ∧
        a = result (view Write.effect store pending) := by
  unfold Env.statement
  split
  · exact .raise
  · refine ⟨rfl, ?_⟩
    intro a same
    cases same
    exact ⟨rfl, rfl⟩

theorem yieldsRead (site : Site) (result : Store → α) :
    Yields Write.effect (env.read site result) store pending fun staged a =>
      staged = pending ∧ a = result (view Write.effect store pending) := by
  apply (yieldsStatement site (fun _ => []) result).weaken
  intro staged a known
  exact ⟨known.1.trans (List.append_nil _), known.2⟩

theorem yieldsGuarded (site : Site) (refused : Store → Bool) (e : PyError) (w : Write) :
    Yields Write.effect (env.guarded site refused e w) store pending fun staged _ =>
      staged = pending ++ [w] ∧ refused (view Write.effect store pending) = false := by
  apply Yields.bind (yieldsStatement _ _ _)
  intro staged failed known
  obtain ⟨rfl, rfl⟩ := known
  cases no : refused (view Write.effect store pending) with
  | true => exact .raise
  | false => exact .pure ⟨rfl, rfl⟩

theorem yieldsRecord (actionCode entityType : PyStr) (entityId : Nat) (entries : List (PyStr × Option PyStr)) :
    Yields Write.effect (record env user actionCode entityType entityId entries) store pending fun staged _ =>
      staged = pending ++ [.insertAudit ⟨some user, actionCode, entityType, entityId, entries, env.now .audit⟩] := by
  unfold record
  apply (yieldsStatement _ _ _).weaken
  exact fun staged _ known => known.1

theorem yieldsRequireMember (organizationId : Nat) :
    Yields Write.effect (requireMember env user organizationId) store pending fun staged _ => staged = pending := by
  apply Yields.bind (yieldsRead _ _)
  intro staged found known
  obtain ⟨rfl, -⟩ := known
  cases found with
  | true => exact .pure rfl
  | false => exact .raise

theorem yieldsRequireAdmin (organizationId : Nat) :
    Yields Write.effect (requireAdmin env user organizationId) store pending fun staged _ => staged = pending := by
  apply Yields.bind (yieldsRead _ _)
  intro staged found known
  obtain ⟨rfl, -⟩ := known
  cases found with
  | true => exact .pure rfl
  | false => exact .raise

theorem yieldsRequireAdminAndGet (organizationId memberUserId : Nat) :
    Yields Write.effect (requireAdminAndGet env user organizationId memberUserId) store [] fun staged seat =>
      staged = [] ∧ store.getMembership organizationId memberUserId = some seat := by
  apply Yields.bind (yieldsRequireAdmin _)
  intro staged _ same
  cases same
  apply Yields.bind (yieldsRead _ _)
  intro staged found known
  obtain ⟨rfl, rfl⟩ := known
  rw [viewNil]
  cases found : store.getMembership organizationId memberUserId with
  | none => exact .raise
  | some seat => exact .pure ⟨rfl, rfl⟩

theorem yieldsCreateOrganization (name : PyStr) (sound : Sound store) :
    Yields Write.effect (createOrganization env user name) store [] fun staged org =>
      Reseats store (view Write.effect store staged) org.id user (some .admin) := by
  apply Yields.bind (yieldsGuarded _ _ _ _)
  intro staged _ known
  obtain ⟨rfl, -⟩ := known
  apply Yields.bind (yieldsGuarded _ _ _ _)
  intro staged _ known
  obtain ⟨rfl, free⟩ := known
  apply Yields.pure
  rw [viewAppend]
  exact seatFounded (seatInserted ⟨sound.small, sound.seated, sound.one⟩ free)

theorem yieldsAddMember (organizationId userId : Nat) (role : Role) (sound : Sound store) :
    Yields Write.effect (addMember env user organizationId userId role) store [] fun staged seat =>
      Reseats store (view Write.effect store staged) organizationId userId (some seat.role) ∧
        seat.userId = userId ∧ userId < 2 ^ 128 := by
  apply Yields.bind (yieldsRequireAdmin _)
  intro staged _ same
  cases same
  apply Yields.bind (yieldsRead _ _)
  intro staged existing known
  obtain ⟨rfl, rfl⟩ := known
  rw [viewNil]
  cases found : store.getMembership organizationId userId with
  | some seat =>
    obtain ⟨-, owner⟩ := seatNamed found
    have kept : store.seatOf organizationId userId = some seat.role := by rw [Store.seatOf, found, Option.map_some]
    exact .pure ⟨seatKept sound kept, owner, owner ▸ sound.seated seat (List.mem_of_find?_eq_some found)⟩
  | none =>
    apply Yields.bind (yieldsGuarded _ _ _ _)
    intro staged _ known
    obtain ⟨rfl, free⟩ := known
    apply Yields.pure
    have reseats := seatInserted sound free
    exact ⟨reseats, rfl, reseats.sound.seated _ (List.mem_append_right _ (List.mem_singleton_self _))⟩

theorem yieldsChangeRole (organizationId memberUserId : Nat) (role : Role) (sound : Sound store) :
    Yields Write.effect (changeRole env user organizationId memberUserId role) store [] fun staged seat =>
      Reseats store (view Write.effect store staged) organizationId memberUserId (some seat.role) ∧
        memberUserId < 2 ^ 128 := by
  apply Yields.bind (yieldsRequireAdminAndGet _ _)
  intro staged seat known
  obtain ⟨rfl, found⟩ := known
  have small : memberUserId < 2 ^ 128 :=
    (seatNamed found).2 ▸ sound.seated seat (List.mem_of_find?_eq_some found)
  have flushed : Yields Write.effect (flushRole env seat role) store [] fun staged _ =>
      Reseats store (view Write.effect store staged) organizationId memberUserId (some role) := by
    unfold flushRole
    split
    · rename_i same
      have kept : store.seatOf organizationId memberUserId = some role := by
        rw [Store.seatOf, found, Option.map_some, same]
      exact .pure (seatKept sound kept)
    · apply (yieldsGuarded _ _ _ _).weaken
      intro staged _ known
      rw [known.1]
      exact seatUpdated sound found role
  apply Yields.bind flushed
  intro staged _ reseats
  exact .pure ⟨reseats, small⟩

theorem yieldsRemoveMember (organizationId memberUserId : Nat) (sound : Sound store) :
    Yields Write.effect (removeMember env user organizationId memberUserId) store [] fun staged _ =>
      Reseats store (view Write.effect store staged) organizationId memberUserId none ∧ memberUserId < 2 ^ 128 := by
  apply Yields.bind (yieldsRequireAdminAndGet _ _)
  intro staged seat known
  obtain ⟨rfl, found⟩ := known
  have there := List.mem_of_find?_eq_some found
  have small : memberUserId < 2 ^ 128 := (seatNamed found).2 ▸ sound.seated seat there
  have holds : store.holds seat = true := List.any_eq_true.mpr ⟨seat, there, by simp [Membership.same]⟩
  apply (yieldsStatement _ _ _).weaken
  intro staged _ known
  rw [known.1, viewNil, if_pos holds]
  exact ⟨seatDeleted sound found, small⟩

theorem yieldsAside (site : Site) (refused : Store → Bool) (e : PyError) {w : Write} (aside : w.aside) :
    Yields Write.effect (env.guarded site refused e w) store [] fun staged _ => ∀ w ∈ staged, w.aside := by
  apply (yieldsGuarded site refused e w).weaken
  intro staged _ known x member
  rw [known.1] at member
  cases List.mem_singleton.mp member
  exact aside

theorem yieldsVisibleTarget (targetId : Nat) :
    Yields Write.effect (getVisibleTarget env user targetId) store pending fun staged _ => staged = pending := by
  apply Yields.bind (yieldsRead _ _)
  intro staged found known
  obtain ⟨rfl, -⟩ := known
  cases found with
  | none => exact .raise
  | some target =>
    dsimp only
    split
    · exact .pure rfl
    · unfold memberOrNotFound
      split
      · exact .raise
      · apply Yields.bind (yieldsRequireMember _)
        intro staged _ same
        exact .pure same

theorem yieldsSetArchived (targetId : Nat) (isArchived : Bool) :
    Yields Write.effect (setArchived env user targetId isArchived) store [] fun staged _ => ∀ w ∈ staged, w.aside := by
  apply Yields.bind (yieldsVisibleTarget _)
  intro staged target same
  cases same
  have flushed : Yields Write.effect (flushArchived env target isArchived) store [] fun staged _ =>
      ∀ w ∈ staged, w.aside := by
    unfold flushArchived
    split
    · exact .pure (by simp)
    · exact yieldsAside _ _ _ trivial
  apply Yields.bind flushed
  intro staged _ asides
  exact .pure asides

theorem yieldsRegisterTarget (hostname url : PyStr) (ownerOrganizationId : Option Nat) :
    Yields Write.effect (registerTarget env user hostname url ownerOrganizationId) store [] fun staged _ =>
      ∀ w ∈ staged, w.aside := by
  have normal : Yields Write.effect (normalized env hostname url) store [] fun staged _ => staged = [] := by
    unfold normalized
    split
    · exact .pure rfl
    · exact .raise
    · exact .raise
  have owner : Yields Write.effect (newOwner env user ownerOrganizationId) store [] fun staged _ => staged = [] := by
    cases ownerOrganizationId with
    | none => exact .pure rfl
    | some organizationId =>
      apply Yields.bind (yieldsRead _ _)
      intro staged found known
      obtain ⟨rfl, -⟩ := known
      split
      · exact .pure rfl
      · exact .raise
  have existing : ∀ organization user url, Yields Write.effect (findByOwnerAndUrl env organization user url) store []
      fun staged _ => staged = [] := by
    intro organization user url
    apply Yields.bind (yieldsRead _ _)
    intro staged found known
    obtain ⟨rfl, -⟩ := known
    unfold scalarOneOrNone
    split
    · exact .pure rfl
    · exact .pure rfl
    · exact .raise
  apply Yields.bind normal
  intro staged target same
  cases same
  apply Yields.bind owner
  intro staged owner same
  cases same
  apply Yields.bind (existing _ _ _)
  intro staged found same
  cases same
  split
  · apply Yields.bind (Q := fun _ _ => False) .raise
    intro _ _ absurd
    exact absurd.elim
  · apply Yields.bind (yieldsAside (w := .insertTarget _) _ _ _ trivial)
    intro staged _ asides
    exact .pure asides

theorem yieldsCreateSelfAttestation (targetId : Nat) (expiresAt : Option DateTime) (evidenceFileRef : Option PyStr) :
    Yields Write.effect (createSelfAttestation env user targetId expiresAt evidenceFileRef) store []
      fun staged _ => ∀ w ∈ staged, w.aside := by
  apply Yields.bind (yieldsVisibleTarget _)
  intro staged target same
  cases same
  have method : Yields Write.effect (methodId env selfAttestationCode) store [] fun staged _ => staged = [] := by
    apply Yields.bind (yieldsRead _ _)
    intro staged found known
    obtain ⟨rfl, -⟩ := known
    split
    · exact .raise
    · exact .pure rfl
  have instant : Yields Write.effect (expiry expiresAt) store [] fun staged _ => staged = [] := by
    unfold expiry
    split
    · exact .pure rfl
    · split
      · exact .raise
      · exact .pure rfl
  apply Yields.bind method
  intro staged method same
  cases same
  apply Yields.bind instant
  intro staged instant same
  cases same
  apply Yields.bind (yieldsGuarded _ _ _ _)
  intro staged _ known
  obtain ⟨rfl, -⟩ := known
  apply Yields.bind (yieldsRecord _ _ _ _)
  intro staged _ same
  cases same
  apply Yields.pure
  intro w member
  simp only [List.nil_append, List.cons_append, List.mem_cons, List.not_mem_nil, or_false] at member
  rcases member with rfl | rfl
  · trivial
  · rfl

theorem yieldsListForTarget (targetId : Nat) :
    Yields Write.effect (listForTarget env user targetId) store [] fun staged _ => ∀ w ∈ staged, w.aside := by
  apply Yields.bind (yieldsVisibleTarget _)
  intro staged target same
  cases same
  apply Yields.bind (yieldsRead _ _)
  intro staged found known
  obtain ⟨rfl, -⟩ := known
  apply Yields.bind (yieldsRead _ _)
  intro staged codes known
  obtain ⟨rfl, -⟩ := known
  exact .pure (by simp)

theorem yieldsRevoke (attestationId : Nat) (reason : PyStr) :
    Yields Write.effect (revoke env user attestationId reason) store [] fun staged _ => ∀ w ∈ staged, w.aside := by
  apply Yields.bind (yieldsRead _ _)
  intro staged found known
  obtain ⟨rfl, -⟩ := known
  cases found with
  | none => exact .raise
  | some attestation =>
    apply Yields.bind (yieldsVisibleTarget _)
    intro staged target same
    cases same
    apply Yields.bind (yieldsGuarded _ _ _ _)
    intro staged _ known
    obtain ⟨rfl, -⟩ := known
    apply Yields.bind (yieldsRecord _ _ _ _)
    intro staged _ same
    cases same
    apply Yields.bind (yieldsRead _ _)
    intro staged codes known
    obtain ⟨rfl, -⟩ := known
    apply Yields.pure
    intro w member
    simp only [List.nil_append, List.cons_append, List.mem_cons, List.not_mem_nil, or_false] at member
    rcases member with rfl | rfl
    · trivial
    · rfl

theorem yieldsTold {organizationId userId : Nat} {role : Option Role} {staged : List Write} {actionCode : PyStr}
    {entries : List (PyStr × Option PyStr)}
    (reseats : Reseats store (view Write.effect store staged) organizationId userId role)
    (tells : AuditRow.Says ⟨some user, actionCode, py "organization", organizationId, entries, env.now .audit⟩
      organizationId userId role) :
    Yields Write.effect (record env user actionCode (py "organization") organizationId entries) store staged
      fun staged _ => Journaled store (view Write.effect store staged) := by
  apply (yieldsRecord _ _ _ _).weaken
  intro staged _ same
  rw [same, viewAppend]
  exact reseatsTold reseats tells

theorem yieldsAnswer {p : Prog α} {answer : α → Answer} (sound : Sound store)
    (asides : Yields Write.effect p store [] fun staged _ => ∀ w ∈ staged, w.aside) :
    Yields Write.effect (p >>= fun a => Pure.pure (answer a)) store []
      fun staged _ => Journaled store (view Write.effect store staged) := by
  apply Yields.bind asides
  intro staged a all
  exact .pure (asidesJournaled all sound)

theorem yieldsRespond (asked : Request) (sound : Sound store) :
    Yields Write.effect (respond env user asked) store []
      fun staged _ => Journaled store (view Write.effect store staged) := by
  have nothing : ∀ w ∈ ([] : List Write), w.aside := by simp
  cases asked with
  | createOrganization name =>
    apply Yields.bind (yieldsCreateOrganization name sound)
    intro staged org reseats
    apply Yields.bind (yieldsTold reseats createdSays)
    intro staged _ told
    exact .pure told
  | getOrganization organizationId =>
    apply yieldsAnswer sound
    apply Yields.bind (yieldsRequireMember _)
    intro staged _ same
    cases same
    apply Yields.bind (yieldsRead _ _)
    intro staged found known
    obtain ⟨rfl, -⟩ := known
    split
    · exact .raise
    · exact .pure nothing
  | listMembers organizationId =>
    apply yieldsAnswer sound
    apply Yields.bind (yieldsRequireMember _)
    intro staged _ same
    cases same
    apply (yieldsRead _ _).weaken
    intro staged _ known
    rw [known.1]
    exact nothing
  | addMember organizationId userId role =>
    apply Yields.bind (yieldsAddMember organizationId userId role sound)
    intro staged seat known
    obtain ⟨reseats, named, small⟩ := known
    rw [named]
    apply Yields.bind (yieldsTold reseats (memberSays small (.inl rfl)))
    intro staged _ told
    exact .pure told
  | changeRole organizationId userId role =>
    apply Yields.bind (yieldsChangeRole organizationId userId role sound)
    intro staged seat known
    obtain ⟨reseats, small⟩ := known
    apply Yields.bind (yieldsTold reseats (memberSays small (.inr rfl)))
    intro staged _ told
    exact .pure told
  | removeMember organizationId userId =>
    apply Yields.bind (yieldsRemoveMember organizationId userId sound)
    intro staged _ known
    obtain ⟨reseats, small⟩ := known
    apply Yields.bind (yieldsTold reseats (removedSays small))
    intro staged _ told
    exact .pure told
  | createTarget hostname url ownerOrganizationId =>
    exact yieldsAnswer sound (yieldsRegisterTarget hostname url ownerOrganizationId)
  | getTarget targetId =>
    apply yieldsAnswer sound
    apply (yieldsVisibleTarget targetId).weaken
    intro staged _ same
    rw [same]
    exact nothing
  | updateTarget targetId isArchived => exact yieldsAnswer sound (yieldsSetArchived targetId isArchived)
  | deleteTarget targetId => exact yieldsAnswer sound (yieldsSetArchived targetId true)
  | createAttestation targetId expiresAt evidenceFileRef =>
    exact yieldsAnswer sound (yieldsCreateSelfAttestation targetId expiresAt evidenceFileRef)
  | listAttestations targetId => exact yieldsAnswer sound (yieldsListForTarget targetId)
  | revokeAttestation attestationId reason => exact yieldsAnswer sound (yieldsRevoke attestationId reason)

end Programs

theorem serveJournaled (store : Store) (call : Call) (sound : Sound store) : Journaled store (serve store call) := by
  unfold serve Call.program request
  rw [soloSession]
  have user : Yields Write.effect (getCurrentUser call.env call.token) store [] fun staged _ => staged = [] := by
    cases call.token with
    | none => exact .raise
    | some userId =>
      apply Yields.bind (yieldsRead _ _)
      intro staged found known
      obtain ⟨rfl, -⟩ := known
      split
      · exact .pure rfl
      · exact .raise
  apply Yields.storeAfter user (journaledRefl sound)
  intro staged userId same
  cases same
  apply Yields.storeAfter (yieldsRespond call.asked sound) (journaledRefl sound)
  intro staged answer told
  unfold Env.commit
  split
  · exact journaledRefl sound
  · exact told

/- The audit log tells the seats: reading what requests served one after another have added
to it, from the seats before them, gives the seats after them. -/
theorem journalTells (store : Store) (calls : List Call) (sound : Sound store) :
    ∃ added, (serveAll store calls).auditLog = store.auditLog ++ added ∧
      ∀ organizationId userId, userId < 2 ^ 128 → (serveAll store calls).seatOf organizationId userId =
        journal added organizationId userId (store.seatOf organizationId userId) := by
  have journaled : Journaled store (serveAll store calls) := by
    unfold serveAll
    induction calls generalizing store with
    | nil => exact journaledRefl sound
    | cons call rest ih =>
      have first := serveJournaled store call sound
      exact journaledTrans first (ih (serve store call) first.sound)
  exact journaled.told

def seatedStore : Store := { smallStore with memberships := [⟨11, 7, 1, .admin, 0⟩, ⟨12, 7, 2, .member, 0⟩] }

def seatedCalls : List Call :=
  [⟨quietEnv 13, some 1, .addMember 7 2 .admin⟩, ⟨quietEnv 14, some 1, .changeRole 7 2 .admin⟩,
    ⟨quietEnv 15, some 1, .removeMember 7 2⟩]

def overlap : List Move :=
  [.step 0, .step 0, .step 0, .step 1, .step 1, .step 1, .step 1, .step 1, .step 1, .step 0, .step 0]

theorem seatedSound : Sound seatedStore := by
  constructor <;> decide

theorem seatedTells : (serveAll seatedStore seatedCalls).auditLog.length = 3 ∧
    ∃ added, (serveAll seatedStore seatedCalls).auditLog = seatedStore.auditLog ++ added ∧
      ∀ organizationId userId, userId < 2 ^ 128 → (serveAll seatedStore seatedCalls).seatOf organizationId userId =
        journal added organizationId userId (seatedStore.seatOf organizationId userId) :=
  ⟨by decide +kernel, journalTells seatedStore seatedCalls seatedSound⟩

/- Requests that overlap can leave it wrong: one that finds the member there and records the
old role after another has recorded the new one. -/
theorem overlapMistold : ∃ trace t, Run rows (started seatedStore (seatedCalls.take 2)) trace t ∧
    t.store.seatOf 7 2 = some .admin ∧ journal t.store.auditLog 7 2 (seatedStore.seatOf 7 2) = some .member := by
  have replayed : ((replay rows (started seatedStore (seatedCalls.take 2)) overlap).map fun (_, t) =>
      (t.store.seatOf 7 2, journal t.store.auditLog 7 2 (seatedStore.seatOf 7 2))) = some (some .admin, some .member) := by
    decide +kernel
  obtain ⟨⟨trace, t⟩, ran, ended⟩ := Option.map_eq_some_iff.mp replayed
  obtain ⟨seat, told⟩ := Prod.mk.inj ended
  exact ⟨trace, t, replayRun ran, seat, told⟩

end SentinelGpt.Tenancy
