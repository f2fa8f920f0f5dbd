import SentinelGpt.TenancyRuns
import SentinelGpt.UniqueIndexes

/-! The unique indexes of the tables, in any interleaving of the requests: what a request
looks up before it inserts a row, the index decides. -/
namespace SentinelGpt.Tenancy
open ReadCommitted

def RegisteredTarget.urlKey (row : RegisteredTarget) : RowKey :=
  .url row.ownerOrganizationId row.ownerUserId row.normalizedUrl

def Store.keys (db : Store) : List RowKey :=
  db.organizations.map (fun o => .organization o.id) ++
    (db.memberships.map (fun m => .membership m.id) ++
      (db.memberships.map (fun m => .seat m.organizationId m.userId) ++
        (db.targets.map (fun t => .target t.id) ++
          (db.targets.map RegisteredTarget.urlKey ++ db.attestations.map fun a => .attestation a.id))))

def Write.keys : Write → List RowKey
  | .insertOrganization row => [.organization row.id]
  | .insertMembership row => [.membership row.id] ++ [.seat row.organizationId row.userId]
  | .insertTarget row => [.target row.id] ++ [row.urlKey]
  | .insertAttestation row => [.attestation row.id]
  | _ => []

def Write.removes : Write → Bool
  | .deleteMembership _ => true
  | _ => false

theorem keysLocked (w : Write) : w.keys ⊆ w.locks := by
  cases w <;> simp [Write.keys, Write.locks, RegisteredTarget.urlKey]

theorem keysWritten (db : Store) {w : Write} (stays : w.removes = false) :
    ((w.effect db).keys).Perm (db.keys ++ w.keys) := by
  apply List.perm_iff_count.mpr
  intro k
  cases w with
  | deleteMembership row => contradiction
  | updateMembership row role =>
    have ids : ((Write.updateMembership row role).effect db).keys = db.keys := by
      have fixed : ∀ m : Membership, (if row.same m then { m with role := role } else m).id = m.id ∧
          (if row.same m then { m with role := role } else m).organizationId = m.organizationId ∧
          (if row.same m then { m with role := role } else m).userId = m.userId := by
        intro m
        split <;> exact ⟨rfl, rfl, rfl⟩
      simp only [Store.keys, Write.effect, List.map_map, Function.comp_def, fixed]
    rw [ids, show (Write.updateMembership row role).keys = [] from rfl, List.append_nil]
  | updateTarget id isArchived =>
    have fixed : ∀ t : RegisteredTarget, (if t.id = id then t.archived isArchived else t).id = t.id ∧
        (if t.id = id then t.archived isArchived else t).urlKey = t.urlKey := by
      intro t
      split <;> exact ⟨rfl, rfl⟩
    simp only [Store.keys, Write.effect, Write.keys, updateRow, List.map_map, Function.comp_def, fixed, List.append_nil]
  | updateAttestation id revokedAt revokedReason =>
    have fixed : ∀ a : Attestation, (if a.id = id then a.revoked revokedAt revokedReason else a).id = a.id := by
      intro a
      split <;> rfl
    simp only [Store.keys, Write.effect, Write.keys, updateRow, List.map_map, Function.comp_def, fixed, List.append_nil]
  | _ =>
    simp only [Store.keys, Write.effect, Write.keys, List.map_append, List.map_cons, List.map_nil, List.count_append,
      List.count_nil]
    omega

theorem keysEffect (db : Store) (w : Write) : ((w.effect db).keys).Subperm (db.keys ++ w.keys) := by
  cases removes : w.removes with
  | false => exact (keysWritten db removes).subperm
  | true =>
    cases w with
    | deleteMembership row =>
      have fewer : (db.memberships.filter fun m => !row.same m).Sublist db.memberships := List.filter_sublist
      rw [show (Write.deleteMembership row).keys = [] from rfl, List.append_nil]
      exact ((List.Sublist.refl _).append ((fewer.map _).append ((fewer.map _).append (List.Sublist.refl _)))).subperm
    | _ => contradiction

def keyIndex : UniqueIndex rows := ⟨Store.keys, Write.keys, keysLocked, keysEffect⟩

/-! What the constraints refuse keeps the entries of a new row free. -/

theorem addedOne (w : Write) : keyIndex.added [w] = w.keys := List.flatMap_singleton _ _

theorem keysFree {db : Store} {w : Write} (stays : w.removes = false) (new : w.keys.Nodup)
    (free : ∀ k ∈ w.keys, k ∉ db.keys) : keyIndex.Free db [w] := by
  refine ⟨?_, addedOne w ▸ new, addedOne w ▸ free⟩
  intro x member
  cases List.mem_singleton.mp member
  exact fun s => (keysWritten s stays).symm.subset

theorem organizationFree {db : Store} {row : Organization} (ok : db.refusesOrganization row = false) :
    keyIndex.Free db [.insertOrganization row] := by
  apply keysFree rfl (by simp [Write.keys])
  simpa [Write.keys, Store.keys, RegisteredTarget.urlKey, Store.refusesOrganization, Store.organization?] using ok

theorem membershipFree {db : Store} {row : Membership} (ok : db.refusesMembership row = false) :
    keyIndex.Free db [.insertMembership row] := by
  simp only [Store.refusesMembership, Bool.or_eq_false_iff] at ok
  obtain ⟨⟨⟨ids, seated⟩, -⟩, -⟩ := ok
  have other : ∀ m ∈ db.memberships, m.organizationId = row.organizationId → m.userId ≠ row.userId := by
    simpa [Store.isMember, Store.getMembership] using seated
  apply keysFree rfl (by simp [Write.keys])
  intro k member there
  rcases List.mem_append.mp member with id | seat
  · cases List.mem_singleton.mp id
    obtain ⟨m, here, same⟩ : ∃ m ∈ db.memberships, m.id = row.id := by
      simpa [Store.keys, RegisteredTarget.urlKey] using there
    simp only [List.any_eq_false, beq_iff_eq] at ids
    exact ids m here same
  · cases List.mem_singleton.mp seat
    obtain ⟨m, here, organization, user⟩ : ∃ m ∈ db.memberships, m.organizationId = row.organizationId ∧
        m.userId = row.userId := by
      simpa [Store.keys, RegisteredTarget.urlKey] using there
    exact other m here organization user

theorem targetFree {db : Store} {row : RegisteredTarget} (ok : db.refusesTarget row = false) :
    keyIndex.Free db [.insertTarget row] := by
  simp only [Store.refusesTarget, Bool.or_eq_false_iff] at ok
  obtain ⟨⟨⟨⟨ids, owned⟩, -⟩, -⟩, -⟩ := ok
  apply keysFree rfl (by simp [Write.keys, RegisteredTarget.urlKey])
  intro k member there
  rcases List.mem_append.mp member with id | url
  · cases List.mem_singleton.mp id
    obtain ⟨t, here, same⟩ : ∃ t ∈ db.targets, t.id = row.id := by
      simpa [Store.keys, RegisteredTarget.urlKey] using there
    have other : ∀ t ∈ db.targets, t.id ≠ row.id := by
      simpa [Store.target?] using ids
    exact other t here same
  · cases List.mem_singleton.mp url
    obtain ⟨t, here, organization, user, url⟩ : ∃ t ∈ db.targets, t.ownerOrganizationId = row.ownerOrganizationId ∧
        t.ownerUserId = row.ownerUserId ∧ t.normalizedUrl = row.normalizedUrl := by
      simpa [Store.keys, RegisteredTarget.urlKey] using there
    have found : t ∈ db.ownedAt row.ownerOrganizationId row.ownerUserId row.normalizedUrl := by
      simp [Store.ownedAt, here, organization, user, url]
    simp only [Bool.not_eq_false', List.isEmpty_iff] at owned
    rw [owned] at found
    contradiction

theorem attestationFree {db : Store} {row : Attestation} (ok : db.refusesAttestation row = false) :
    keyIndex.Free db [.insertAttestation row] := by
  simp only [Store.refusesAttestation, Bool.or_eq_false_iff] at ok
  apply keysFree rfl (by simp [Write.keys])
  simpa [Write.keys, Store.keys, RegisteredTarget.urlKey, Store.attestation?] using ok.1.1

def Request.removes : Request → Bool
  | .removeMember _ _ => true
  | _ => false

section Programs
variable {env : Env} {user : Nat} {removes : Bool} {α : Type}

theorem uniqueStatement {site : Site} {writes : Store → List Write} {result : Store → α}
    (owed : ∀ v, if removes then keyIndex.added (writes v) = [] else keyIndex.Free v (writes v)) :
    Meets (keyIndex.contract removes) (env.statement site writes result) fun _ => True := by
  unfold Env.statement
  split
  · exact .raise
  · intro log v _
    exact ⟨owed v, fun _ _ => trivial⟩

theorem uniqueNothing (v : Store) : if removes then keyIndex.added [] = [] else keyIndex.Free v [] := by
  cases removes with
  | true => rfl
  | false => exact ⟨by simp, List.nodup_nil, by simp [UniqueIndex.added]⟩

theorem uniqueQuiet (v : Store) {w : Write} (stays : w.removes = false) (none : w.keys = []) :
    if removes then keyIndex.added [w] = [] else keyIndex.Free v [w] := by
  cases removes with
  | true => exact (addedOne w).trans none
  | false => exact keysFree stays (by simp [none]) (by simp [none])

theorem uniqueRead {site : Site} {result : Store → α} :
    Meets (keyIndex.contract removes) (env.read site result) fun _ => True :=
  uniqueStatement uniqueNothing

theorem uniqueGuarded {site : Site} {refused : Store → Bool} {e : PyError} {w : Write}
    (owed : ∀ v, refused v = false → if removes then keyIndex.added [w] = [] else keyIndex.Free v [w]) :
    Meets (keyIndex.contract removes) (env.guarded site refused e w) fun _ => True := by
  apply Meets.bind (uniqueStatement ?_)
  · intro failed _
    cases failed with
    | true => exact .raise
    | false => exact .pure trivial
  · intro v
    cases no : refused v with
    | true => exact uniqueNothing v
    | false => exact owed v no

theorem uniqueInsert {site : Site} {refused : Store → Bool} {w : Write}
    (free : ∀ v, refused v = false → keyIndex.Free v [w]) :
    Meets (keyIndex.contract false) (env.insert site refused w) fun _ => True := by
  apply uniqueGuarded
  intro v ok
  exact free v ok

theorem uniqueRecord {actionCode entityType : PyStr} {entityId : Nat} {entries : List (PyStr × Option PyStr)} :
    Meets (keyIndex.contract removes) (record env user actionCode entityType entityId entries) fun _ => True :=
  uniqueStatement fun v => uniqueQuiet v rfl rfl

theorem uniqueRequireMember {organizationId : Nat} :
    Meets (keyIndex.contract removes) (requireMember env user organizationId) fun _ => True := by
  apply Meets.bind uniqueRead
  intro found _
  cases found with
  | true => exact .pure trivial
  | false => exact .raise

theorem uniqueRequireAdmin {organizationId : Nat} :
    Meets (keyIndex.contract removes) (requireAdmin env user organizationId) fun _ => True := by
  apply Meets.bind uniqueRead
  intro found _
  cases found with
  | true => exact .pure trivial
  | false => exact .raise

theorem uniqueRequireAdminAndGet {organizationId memberUserId : Nat} :
    Meets (keyIndex.contract removes) (requireAdminAndGet env user organizationId memberUserId) fun _ => True := by
  apply Meets.bind uniqueRequireAdmin
  intro _ _
  apply Meets.bind uniqueRead
  intro found _
  cases found with
  | none => exact .raise
  | some membership => exact .pure trivial

theorem uniqueCreateOrganization {name : PyStr} :
    Meets (keyIndex.contract false) (createOrganization env user name) fun _ => True := by
  apply Meets.bind (uniqueInsert fun _ ok => organizationFree ok)
  intro _ _
  apply Meets.bind (uniqueInsert fun _ ok => membershipFree ok)
  intro _ _
  exact .pure trivial

theorem uniqueGetOrganization {organizationId : Nat} :
    Meets (keyIndex.contract removes) (getOrganization env user organizationId) fun _ => True := by
  apply Meets.bind uniqueRequireMember
  intro _ _
  apply Meets.bind uniqueRead
  intro found _
  cases found with
  | none => exact .raise
  | some org => exact .pure trivial

theorem uniqueAddMember {organizationId userId : Nat} {role : Role} :
    Meets (keyIndex.contract false) (addMember env user organizationId userId role) fun _ => True := by
  apply Meets.bind uniqueRequireAdmin
  intro _ _
  apply Meets.bind uniqueRead
  intro found _
  cases found with
  | some existing => exact .pure trivial
  | none =>
    apply Meets.bind (uniqueInsert fun _ ok => membershipFree ok)
    intro _ _
    exact .pure trivial

theorem uniqueChangeRole {organizationId memberUserId : Nat} {role : Role} :
    Meets (keyIndex.contract removes) (changeRole env user organizationId memberUserId role) fun _ => True := by
  apply Meets.bind uniqueRequireAdminAndGet
  intro membership _
  have flushed : Meets (keyIndex.contract removes) (flushRole env membership role) fun _ => True := by
    unfold flushRole
    split
    · exact .pure trivial
    · exact uniqueGuarded fun v _ => uniqueQuiet v rfl rfl
  apply Meets.bind flushed
  intro _ _
  exact .pure trivial

theorem uniqueRemoveMember {organizationId memberUserId : Nat} :
    Meets (keyIndex.contract true) (removeMember env user organizationId memberUserId) fun _ => True := by
  apply Meets.bind uniqueRequireAdminAndGet
  intro membership _
  apply uniqueStatement
  intro v
  simp only [if_true]
  split <;> rfl

theorem uniqueVisibleTarget {targetId : Nat} :
    Meets (keyIndex.contract removes) (getVisibleTarget env user targetId) fun _ => True := by
  apply Meets.bind uniqueRead
  intro found _
  cases found with
  | none => exact .raise
  | some target =>
    dsimp only
    split
    · exact .pure trivial
    · unfold memberOrNotFound
      split
      · exact .raise
      · apply Meets.bind uniqueRequireMember
        intro _ _
        exact .pure trivial

theorem uniqueRegisterTarget {hostname url : PyStr} {ownerOrganizationId : Option Nat} :
    Meets (keyIndex.contract false) (registerTarget env user hostname url ownerOrganizationId) fun _ => True := by
  have normal : Meets (keyIndex.contract false) (normalized env hostname url) fun _ => True := by
    unfold normalized
    split
    · exact .pure trivial
    · exact .raise
    · exact .raise
  have owner : Meets (keyIndex.contract false) (newOwner env user ownerOrganizationId) fun _ => True := by
    cases ownerOrganizationId with
    | none => exact .pure trivial
    | some organizationId =>
      apply Meets.bind uniqueRead
      intro found _
      split
      · exact .pure trivial
      · exact .raise
  have existing : ∀ organization user url,
      Meets (keyIndex.contract false) (findByOwnerAndUrl env organization user url) fun _ => True := by
    intro organization user url
    apply Meets.bind uniqueRead
    intro found _
    unfold scalarOneOrNone
    split
    · exact .pure trivial
    · exact .pure trivial
    · exact .raise
  apply Meets.bind normal
  intro target _
  apply Meets.bind owner
  intro owner _
  apply Meets.bind (existing _ _ _)
  intro found _
  split
  · exact .bind (Q := fun _ => False) .raise fun _ absurd => absurd.elim
  · apply Meets.bind (uniqueInsert fun _ ok => targetFree ok)
    intro _ _
    exact .pure trivial

theorem uniqueSetArchived {targetId : Nat} {isArchived : Bool} :
    Meets (keyIndex.contract removes) (setArchived env user targetId isArchived) fun _ => True := by
  apply Meets.bind uniqueVisibleTarget
  intro target _
  have flushed : Meets (keyIndex.contract removes) (flushArchived env target isArchived) fun _ => True := by
    unfold flushArchived
    split
    · exact .pure trivial
    · exact uniqueGuarded fun v _ => uniqueQuiet v rfl rfl
  apply Meets.bind flushed
  intro _ _
  exact .pure trivial

theorem uniqueCreateSelfAttestation {targetId : Nat} {expiresAt : Option DateTime} {evidenceFileRef : Option PyStr} :
    Meets (keyIndex.contract false) (createSelfAttestation env user targetId expiresAt evidenceFileRef)
      fun _ => True := by
  have method : Meets (keyIndex.contract false) (methodId env selfAttestationCode) fun _ => True := by
    apply Meets.bind uniqueRead
    intro found _
    split
    · exact .raise
    · exact .pure trivial
  have instant : Meets (keyIndex.contract false) (expiry expiresAt) fun _ => True := by
    unfold expiry
    split
    · exact .pure trivial
    · split
      · exact .raise
      · exact .pure trivial
  apply Meets.bind uniqueVisibleTarget
  intro target _
  apply Meets.bind method
  intro method _
  apply Meets.bind instant
  intro instant _
  apply Meets.bind (uniqueInsert fun _ ok => attestationFree ok)
  intro _ _
  apply Meets.bind uniqueRecord
  intro _ _
  exact .pure trivial

theorem uniqueListForTarget {targetId : Nat} :
    Meets (keyIndex.contract removes) (listForTarget env user targetId) fun _ => True := by
  apply Meets.bind uniqueVisibleTarget
  intro target _
  apply Meets.bind uniqueRead
  intro found _
  apply Meets.bind uniqueRead
  intro codes _
  exact .pure trivial

theorem uniqueRevoke {attestationId : Nat} {reason : PyStr} :
    Meets (keyIndex.contract removes) (revoke env user attestationId reason) fun _ => True := by
  apply Meets.bind uniqueRead
  intro found _
  cases found with
  | none => exact .raise
  | some attestation =>
    apply Meets.bind uniqueVisibleTarget
    intro target _
    apply Meets.bind (uniqueGuarded fun v _ => uniqueQuiet v rfl rfl)
    intro _ _
    apply Meets.bind uniqueRecord
    intro _ _
    apply Meets.bind uniqueRead
    intro codes _
    exact .pure trivial

theorem uniqueAnswer {p : Prog α} {answer : α → Answer} (meets : Meets (keyIndex.contract removes) p fun _ => True) :
    Meets (keyIndex.contract removes) (p >>= fun a => Pure.pure (answer a)) fun _ => True :=
  .bind meets fun _ _ => .pure trivial

theorem uniqueRespond (asked : Request) :
    Meets (keyIndex.contract asked.removes) (respond env user asked) fun _ => True := by
  cases asked with
  | createOrganization name =>
    apply Meets.bind uniqueCreateOrganization
    intro org _
    exact uniqueAnswer uniqueRecord
  | addMember organizationId userId role =>
    apply Meets.bind uniqueAddMember
    intro membership _
    exact uniqueAnswer uniqueRecord
  | changeRole organizationId userId role =>
    apply Meets.bind uniqueChangeRole
    intro membership _
    exact uniqueAnswer uniqueRecord
  | removeMember organizationId userId =>
    apply Meets.bind uniqueRemoveMember
    intro _ _
    exact uniqueAnswer uniqueRecord
  | getOrganization organizationId => exact uniqueAnswer uniqueGetOrganization
  | listMembers organizationId =>
    exact uniqueAnswer (.bind uniqueRequireMember fun _ _ => uniqueRead)
  | createTarget hostname url ownerOrganizationId => exact uniqueAnswer uniqueRegisterTarget
  | getTarget targetId => exact uniqueAnswer uniqueVisibleTarget
  | updateTarget targetId isArchived => exact uniqueAnswer uniqueSetArchived
  | deleteTarget targetId => exact uniqueAnswer uniqueSetArchived
  | createAttestation targetId expiresAt evidenceFileRef => exact uniqueAnswer uniqueCreateSelfAttestation
  | listAttestations targetId => exact uniqueAnswer uniqueListForTarget
  | revokeAttestation attestationId reason => exact uniqueAnswer uniqueRevoke

theorem uniqueCall (call : Call) : Meets (keyIndex.contract call.asked.removes) call.program fun _ => True := by
  have user : Meets (keyIndex.contract call.asked.removes) (getCurrentUser call.env call.token) fun _ => True := by
    cases call.token with
    | none => exact .raise
    | some userId =>
      apply Meets.bind uniqueRead
      intro found _
      split
      · exact .pure trivial
      · exact .raise
  apply Meets.session fun _ => trivial
  apply Meets.bind user
  intro userId _
  apply Meets.bind (uniqueRespond call.asked)
  intro answer _
  unfold Env.commit
  split
  · exact .raise
  · exact fun log _ => ⟨trivial, fun _ _ => trivial⟩

end Programs

def removing (calls : List Call) (i : Nat) : Bool := (calls[i]?.map fun call => call.asked.removes).getD false

def doubleCalls : List Call :=
  [⟨quietEnv 12, some 1, .addMember 7 2 .member⟩, ⟨quietEnv 13, some 1, .addMember 7 2 .admin⟩]

def doubleMoves : List Move :=
  [.step 0, .step 0, .step 0, .step 1, .step 1, .step 1, .step 0, .step 0, .step 0, .step 1, .step 1]

end SentinelGpt.Tenancy
