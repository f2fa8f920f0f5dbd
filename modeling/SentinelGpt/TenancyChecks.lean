import SentinelGpt.TenancyRuns

/-! What every write of a request has been let through by: the statements of the same request that
found its user signed in, and entitled to it in the states they read. -/
namespace SentinelGpt.Tenancy
open ReadCommitted TargetPages

def Read (site : Site) (v : Store) (log : Log) : Prop := ∃ ws, .exec site v ws ∈ log

def Wrote (w : Write) (log : Log) : Prop := ∃ site v ws, .exec site v ws ∈ log ∧ w ∈ ws

def SignedIn (user : Nat) (log : Log) : Prop :=
  ∃ v, Read .getCurrentUser v log ∧ (v.user? user).any User.isActive = true

def FoundAdmin (user organizationId : Nat) (log : Log) : Prop :=
  ∃ v, Read .isAdmin v log ∧ v.isAdmin user organizationId = true

def FoundMember (user organizationId : Nat) (log : Log) : Prop :=
  ∃ v, Read .isMember v log ∧ v.isMember user organizationId = true

def FoundVisible (user targetId : Nat) (log : Log) : Prop :=
  ∃ v target, Read .getTarget v log ∧ v.target? targetId = some target ∧
    (target.ownerUserId = some user ∨
      ∃ organizationId, target.ownerOrganizationId = some organizationId ∧ FoundMember user organizationId log)

def Owner (user : Nat) (ownerOrganizationId ownerUserId : Option Nat) (log : Log) : Prop :=
  ownerOrganizationId.elim (ownerUserId = some user) fun organizationId =>
    ownerUserId = none ∧ FoundMember user organizationId log

/- A write is what the request asks for, and what its earlier statements allow. -/
def Checked (env : Env) (user : Nat) (asked : Request) (log : Log) : Write → Prop
  | .insertOrganization row => ∃ name, asked = .createOrganization name ∧ row.name = name.take 255
  | .insertMembership row =>
      (asked = .addMember row.organizationId row.userId row.role ∧ FoundAdmin user row.organizationId log) ∨
        ∃ name org, asked = .createOrganization name ∧ Wrote (.insertOrganization org) log ∧
          row.organizationId = org.id ∧ row.userId = user ∧ row.role = .admin
  | .updateMembership row role =>
      asked = .changeRole row.organizationId row.userId role ∧ FoundAdmin user row.organizationId log
  | .deleteMembership row =>
      asked = .removeMember row.organizationId row.userId ∧ FoundAdmin user row.organizationId log
  | .insertTarget row => (∃ hostname url, asked = .createTarget hostname url row.ownerOrganizationId ∧
      TargetNormalization.normalizeTarget env.python hostname url = .ok ⟨row.hostname, row.normalizedUrl⟩) ∧
        Owner user row.ownerOrganizationId row.ownerUserId log
  | .updateTarget id isArchived =>
      (asked = .updateTarget id isArchived ∨ (asked = .deleteTarget id ∧ isArchived = true)) ∧ FoundVisible user id log
  | .insertAttestation row => (∃ expiresAt, asked = .createAttestation row.targetId expiresAt row.evidenceFileRef ∧
      row.expiresAt = expiresAt.bind DateTime.instant) ∧ row.createdByUserId = some user ∧
        FoundVisible user row.targetId log
  | .updateAttestation id _ revokedReason => ∃ reason v a, asked = .revokeAttestation id reason ∧
      Read .getAttestation v log ∧ v.attestation? id = some a ∧ FoundVisible user a.targetId log ∧
        (revokedReason <|> a.revokedReason) = some (reason.take 1000)
  | .insertAudit row => row.actorUserId = some user

def checks (env : Env) (user : Nat) (asked : Request) : Contract Store Write Site where
  assume _ _ := True
  guarantee log e := ∀ site v ws, e = .exec site v ws → ∀ w ∈ ws, SignedIn user log ∧ Checked env user asked log w

theorem readStable (site : Site) (v : Store) : Stable (Read site v) := by
  intro log e read
  obtain ⟨ws, member⟩ := read
  exact ⟨ws, List.mem_append_left _ member⟩

theorem wroteStable (w : Write) : Stable (Wrote w) := by
  intro log e wrote
  obtain ⟨site, v, ws, member, written⟩ := wrote
  exact ⟨site, v, ws, List.mem_append_left _ member, written⟩

theorem signedStable (user : Nat) : Stable (SignedIn user) := by
  intro log e signed
  obtain ⟨v, read, active⟩ := signed
  exact ⟨v, readStable _ v log e read, active⟩

theorem adminStable (user organizationId : Nat) : Stable (FoundAdmin user organizationId) := by
  intro log e found
  obtain ⟨v, read, admin⟩ := found
  exact ⟨v, readStable _ v log e read, admin⟩

theorem memberStable (user organizationId : Nat) : Stable (FoundMember user organizationId) := by
  intro log e found
  obtain ⟨v, read, member⟩ := found
  exact ⟨v, readStable _ v log e read, member⟩

theorem visibleStable (user targetId : Nat) : Stable (FoundVisible user targetId) := by
  intro log e visible
  obtain ⟨v, target, read, found, owner | ⟨organizationId, owner, member⟩⟩ := visible
  · exact ⟨v, target, readStable _ v log e read, found, .inl owner⟩
  · exact ⟨v, target, readStable _ v log e read, found, .inr ⟨organizationId, owner, memberStable _ _ log e member⟩⟩

theorem stableBoth {K K' : Log → Prop} (first : Stable K) (second : Stable K') : Stable fun log => K log ∧ K' log :=
  fun log e both => ⟨first log e both.1, second log e both.2⟩

section Programs
variable {env : Env} {user : Nat} {asked : Request} {α : Type} {K : Log → Prop}

def Keeps (env : Env) (user : Nat) (asked : Request) (K : Log → Prop) (p : Prog α) (Q : α → Log → Prop) : Prop :=
  Ends (checks env user asked) K p Q fun _ _ => True

theorem keepsStatement {site : Site} {writes : Store → List Write} {result : Store → α} (stable : Stable K)
    (owed : ∀ log v, K log → ∀ w ∈ writes v, SignedIn user log ∧ Checked env user asked log w) :
    Keeps env user asked K (env.statement site writes result)
      fun a log => (∃ v, .exec site v (writes v) ∈ log ∧ a = result v) ∧ K log := by
  unfold Env.statement
  split
  · exact .raise fun _ _ => trivial
  · apply Ends.exec (R := fun v log => .exec site v (writes v) ∈ log ∧ K log)
    · intro log v known _
      refine ⟨?_, List.mem_append_right _ (List.mem_singleton_self _), stable log _ known⟩
      intro site' v' ws same
      cases same
      exact owed log v known
    · exact fun v => .pure fun log known => ⟨⟨v, known.1, rfl⟩, known.2⟩

theorem keepsRead {site : Site} {result : Store → α} (stable : Stable K) :
    Keeps env user asked K (env.read site result) fun a log => (∃ v, Read site v log ∧ a = result v) ∧ K log := by
  apply Ends.after (keepsStatement stable fun _ _ _ w member => by simp at member)
  intro a log known
  obtain ⟨⟨v, member, same⟩, rest⟩ := known
  exact ⟨⟨v, ⟨[], member⟩, same⟩, rest⟩

theorem keepsGuarded {site : Site} {refused : Store → Bool} {e : PyError} {w : Write} (stable : Stable K)
    (signed : ∀ log, K log → SignedIn user log) (owed : ∀ log, K log → Checked env user asked log w) :
    Keeps env user asked K (env.guarded site refused e w) fun _ log => Wrote w log ∧ K log := by
  apply Ends.bind
  · apply keepsStatement stable
    intro log v known x member
    split at member
    · contradiction
    · cases List.mem_singleton.mp member
      exact ⟨signed log known, owed log known⟩
  · intro failed
    cases failed with
    | true => exact .raise fun _ _ => trivial
    | false =>
      apply Ends.pure
      intro log known
      obtain ⟨⟨v, member, no⟩, rest⟩ := known
      rw [← no, if_neg Bool.false_ne_true] at member
      exact ⟨⟨site, v, _, member, List.mem_singleton_self _⟩, rest⟩

theorem keepsRecord {actionCode entityType : PyStr} {entityId : Nat} {entries : List (PyStr × Option PyStr)}
    (stable : Stable K) (signed : ∀ log, K log → SignedIn user log) :
    Keeps env user asked K (record env user actionCode entityType entityId entries) fun _ => K := by
  apply Ends.after
  · apply keepsStatement stable
    intro log v known w member
    cases List.mem_singleton.mp member
    exact ⟨signed log known, rfl⟩
  · exact fun _ _ known => known.2

theorem keepsRequireMember {organizationId : Nat} (stable : Stable K) :
    Keeps env user asked K (requireMember env user organizationId) fun _ log => FoundMember user organizationId log ∧ K log := by
  apply Ends.bind (keepsRead stable)
  intro found
  cases found with
  | true => exact .pure fun log known => ⟨known.1.imp fun v both => ⟨both.1, both.2.symm⟩, known.2⟩
  | false => exact .raise fun _ _ => trivial

theorem keepsRequireAdmin {organizationId : Nat} (stable : Stable K) :
    Keeps env user asked K (requireAdmin env user organizationId) fun _ log => FoundAdmin user organizationId log ∧ K log := by
  apply Ends.bind (keepsRead stable)
  intro found
  cases found with
  | true => exact .pure fun log known => ⟨known.1.imp fun v both => ⟨both.1, both.2.symm⟩, known.2⟩
  | false => exact .raise fun _ _ => trivial

theorem keepsVisibleTarget {targetId : Nat} (stable : Stable K) :
    Keeps env user asked K (getVisibleTarget env user targetId)
      fun target log => target.id = targetId ∧ FoundVisible user targetId log ∧ K log := by
  apply Ends.bind (keepsRead stable)
  intro found
  cases found with
  | none => exact .raise fun _ _ => trivial
  | some target =>
    have named : ∀ v : Store, v.target? targetId = some target → target.id = targetId := by
      intro v found
      simpa using List.find?_some found
    dsimp only
    split
    · rename_i owner
      apply Ends.pure
      intro log known
      obtain ⟨⟨v, read, found⟩, rest⟩ := known
      exact ⟨named v found.symm, ⟨v, target, read, found.symm, .inl (beq_iff_eq.mp owner)⟩, rest⟩
    · unfold memberOrNotFound
      cases owner : target.ownerOrganizationId with
      | none => exact .raise fun _ _ => trivial
      | some organizationId =>
        apply Ends.bind (keepsRequireMember ?_)
        · intro _
          apply Ends.pure
          intro log known
          obtain ⟨member, ⟨v, read, found⟩, rest⟩ := known
          exact ⟨named v found.symm,
            ⟨v, target, read, found.symm, .inr ⟨organizationId, owner, member⟩⟩, rest⟩
        · refine stableBoth (fun log e known => ?_) stable
          obtain ⟨v, read, found⟩ := known
          exact ⟨v, readStable _ v log e read, found⟩

theorem keepsSetArchived {targetId : Nat} {isArchived : Bool} (stable : Stable K)
    (signed : ∀ log, K log → SignedIn user log)
    (same : asked = .updateTarget targetId isArchived ∨ (asked = .deleteTarget targetId ∧ isArchived = true)) :
    Keeps env user asked K (setArchived env user targetId isArchived) fun _ log => SignedIn user log := by
  apply Ends.bind (keepsVisibleTarget stable)
  intro target
  apply Ends.given
  intro named
  have flushed : Keeps env user asked (fun log => FoundVisible user targetId log ∧ K log)
      (flushArchived env target isArchived) fun _ log => SignedIn user log := by
    unfold flushArchived
    split
    · exact .pure fun log known => signed log known.2
    · apply Ends.after (keepsGuarded (stableBoth (visibleStable user targetId) stable) _ _)
      · exact fun _ log known => signed log known.2.2
      · exact fun log known => signed log known.2
      · exact fun log known => ⟨named ▸ same, named ▸ known.1⟩
  apply Ends.bind flushed
  exact fun _ => .pure fun log known => known

theorem keepsCreateSelfAttestation {targetId : Nat} {expiresAt : Option DateTime} {evidenceFileRef : Option PyStr}
    (stable : Stable K) (signed : ∀ log, K log → SignedIn user log)
    (same : asked = .createAttestation targetId expiresAt evidenceFileRef) :
    Keeps env user asked K (createSelfAttestation env user targetId expiresAt evidenceFileRef)
      fun _ log => SignedIn user log := by
  apply Ends.bind (keepsVisibleTarget stable)
  intro target
  apply Ends.given
  intro _
  have seen := stableBoth (visibleStable user targetId) stable
  have method : Keeps env user asked (fun log => FoundVisible user targetId log ∧ K log)
      (methodId env selfAttestationCode) fun _ log => FoundVisible user targetId log ∧ K log := by
    apply Ends.bind (keepsRead seen)
    intro found
    cases found with
    | none => exact .raise fun _ _ => trivial
    | some entry => exact .pure fun log known => known.2
  have instant : Keeps env user asked (fun log => FoundVisible user targetId log ∧ K log) (expiry expiresAt)
      fun stored log => stored = expiresAt.bind DateTime.instant ∧ FoundVisible user targetId log ∧ K log := by
    unfold expiry
    split
    · exact .pure fun log known => ⟨rfl, known⟩
    · split
      · exact .raise fun _ _ => trivial
      · rename_i aware
        exact .pure fun log known => ⟨aware.symm, known⟩
  apply Ends.bind method
  intro _
  apply Ends.bind instant
  intro stored
  apply Ends.given
  intro meant
  apply Ends.bind (keepsGuarded seen _ _)
  · intro _
    refine Ends.bind (Ends.before (keepsRecord (signedStable user) fun _ known => known) ?_) ?_
    · exact fun log known => signed log known.2.2
    · exact fun _ => .pure fun log known => known
  · exact fun log known => signed log known.2
  · exact fun log known => ⟨⟨expiresAt, same, meant⟩, rfl, known.1⟩

theorem keepsListForTarget {targetId : Nat} (stable : Stable K) (signed : ∀ log, K log → SignedIn user log) :
    Keeps env user asked K (listForTarget env user targetId) fun _ log => SignedIn user log := by
  apply Ends.bind (keepsVisibleTarget stable)
  intro target
  apply Ends.given
  intro _
  have seen := stableBoth (visibleStable user targetId) stable
  apply Ends.bind (keepsRead seen)
  intro found
  apply Ends.bind ((keepsRead seen).before fun log known => known.2)
  exact fun _ => .pure fun log known => signed log known.2.2

theorem keepsRevoke {attestationId : Nat} {reason : PyStr} (stable : Stable K)
    (signed : ∀ log, K log → SignedIn user log) (same : asked = .revokeAttestation attestationId reason) :
    Keeps env user asked K (revoke env user attestationId reason) fun _ log => SignedIn user log := by
  apply Ends.bind (keepsRead stable)
  intro found
  cases found with
  | none => exact .raise fun _ _ => trivial
  | some attestation =>
    have looked : Stable fun log : Log => ∃ v, Read .getAttestation v log ∧ some attestation = v.attestation? attestationId := by
      intro log e known
      obtain ⟨v, read, found⟩ := known
      exact ⟨v, readStable _ v log e read, found⟩
    apply Ends.bind (keepsVisibleTarget (stableBoth looked stable))
    intro target
    apply Ends.given
    intro _
    apply Ends.bind (keepsGuarded (stableBoth (visibleStable user _) (stableBoth looked stable)) _ _)
    · intro _
      refine Ends.bind (Ends.before (keepsRecord (signedStable user) fun _ known => known) ?_) ?_
      · exact fun log known => signed log known.2.2.2
      · intro _
        apply Ends.bind (keepsRead (signedStable user))
        exact fun _ => .pure fun log known => known.2
    · exact fun log known => signed log known.2.2
    · intro log known
      obtain ⟨seen, ⟨v, read, found⟩, -⟩ := known
      have named : attestation.id = attestationId := by simpa using List.find?_some found.symm
      refine ⟨reason, v, attestation, named ▸ same, read, named ▸ found.symm, seen, ?_⟩
      split
      · assumption
      · rfl

theorem ownerStable (user : Nat) (ownerOrganizationId ownerUserId : Option Nat) :
    Stable (Owner user ownerOrganizationId ownerUserId) := by
  intro log e owner
  cases ownerOrganizationId with
  | none => exact owner
  | some organizationId => exact ⟨owner.1, memberStable _ _ log e owner.2⟩

theorem keepsNewOwner {ownerOrganizationId : Option Nat} (stable : Stable K) :
    Keeps env user asked K (newOwner env user ownerOrganizationId)
      fun owner log => owner.1 = ownerOrganizationId ∧ Owner user owner.1 owner.2 log ∧ K log := by
  cases ownerOrganizationId with
  | none => exact .pure fun _ known => ⟨rfl, rfl, known⟩
  | some organizationId =>
    apply Ends.bind (keepsRead stable)
    intro found
    cases found with
    | false => exact .raise fun _ _ => trivial
    | true =>
      apply Ends.pure
      intro log known
      exact ⟨rfl, ⟨rfl, known.1.imp fun v both => ⟨both.1, both.2.symm⟩⟩, known.2⟩

theorem keepsFindByOwner {ownerOrganizationId ownerUserId : Option Nat} {normalizedUrl : PyStr} (stable : Stable K) :
    Keeps env user asked K (findByOwnerAndUrl env ownerOrganizationId ownerUserId normalizedUrl) fun _ => K := by
  apply Ends.bind (keepsRead stable)
  intro found
  unfold scalarOneOrNone
  split
  · exact .pure fun _ known => known.2
  · exact .pure fun _ known => known.2
  · exact .raise fun _ _ => trivial

theorem keepsRegisterTarget {hostname url : PyStr} {ownerOrganizationId : Option Nat} (stable : Stable K)
    (signed : ∀ log, K log → SignedIn user log) (same : asked = .createTarget hostname url ownerOrganizationId) :
    Keeps env user asked K (registerTarget env user hostname url ownerOrganizationId) fun _ log => SignedIn user log := by
  have normal : Keeps env user asked K (normalized env hostname url)
      fun target log => TargetNormalization.normalizeTarget env.python hostname url = .ok target ∧ K log := by
    unfold normalized
    split
    · rename_i accepted
      exact .pure fun _ known => ⟨accepted, known⟩
    · exact .raise fun _ _ => trivial
    · exact .raise fun _ _ => trivial
  apply Ends.bind normal
  intro target
  apply Ends.given
  intro accepted
  apply Ends.bind (keepsNewOwner stable)
  intro owner
  obtain ⟨ownerOrganization, ownerUser⟩ := owner
  apply Ends.given
  rintro rfl
  have owned := stableBoth (ownerStable user ownerOrganization ownerUser) stable
  apply Ends.bind (keepsFindByOwner owned)
  intro existing
  cases existing.isSome with
  | true => exact .bind (Q := fun _ _ => False) (.raise fun _ _ => trivial) fun _ _ never => never.elim
  | false =>
    refine Ends.bind (keepsGuarded owned (fun log known => signed log known.2) ?_) ?_
    · exact fun log known => ⟨⟨hostname, url, same, accepted⟩, known.1⟩
    · exact fun _ => .pure fun log known => signed log known.2.2

theorem keepsCreateOrganization {name : PyStr} (stable : Stable K) (signed : ∀ log, K log → SignedIn user log)
    (same : asked = .createOrganization name) :
    Keeps env user asked K (createOrganization env user name) fun _ log => SignedIn user log := by
  refine Ends.bind (keepsGuarded stable signed ?_) fun _ => ?_
  · exact fun _ _ => ⟨name, same, rfl⟩
  · refine Ends.bind (keepsGuarded (stableBoth (wroteStable _) stable) (fun log known => signed log known.2) ?_) ?_
    · exact fun log known => .inr ⟨name, _, same, known.1, rfl, rfl, rfl⟩
    · exact fun _ => .pure fun log known => signed log known.2.2

theorem keepsGetOrganization {organizationId : Nat} (stable : Stable K) (signed : ∀ log, K log → SignedIn user log) :
    Keeps env user asked K (getOrganization env user organizationId) fun _ log => SignedIn user log := by
  apply Ends.bind (keepsRequireMember stable)
  intro _
  apply Ends.bind ((keepsRead stable).before fun log known => known.2)
  intro found
  cases found with
  | none => exact .raise fun _ _ => trivial
  | some org => exact .pure fun log known => signed log known.2

theorem keepsListMembers {organizationId : Nat} (stable : Stable K) (signed : ∀ log, K log → SignedIn user log) :
    Keeps env user asked K (listMembers env user organizationId) fun _ log => SignedIn user log := by
  apply Ends.bind (keepsRequireMember stable)
  intro _
  exact ((keepsRead stable).before fun log known => known.2).after fun _ log known => signed log known.2

theorem keepsAddMember {organizationId userId : Nat} {role : Role} (stable : Stable K)
    (signed : ∀ log, K log → SignedIn user log) (same : asked = .addMember organizationId userId role) :
    Keeps env user asked K (addMember env user organizationId userId role) fun _ log => SignedIn user log := by
  apply Ends.bind (keepsRequireAdmin stable)
  intro _
  have led := stableBoth (adminStable user organizationId) stable
  apply Ends.bind (keepsRead led)
  intro found
  cases found with
  | some existing => exact .pure fun log known => signed log known.2.2
  | none =>
    apply Ends.bind ((keepsGuarded led _ _).before fun log known => known.2)
    · exact fun _ => .pure fun log known => signed log known.2.2
    · exact fun log known => signed log known.2
    · exact fun log known => .inl ⟨same, known.1⟩

theorem keepsRequireAdminAndGet {organizationId memberUserId : Nat} (stable : Stable K) :
    Keeps env user asked K (requireAdminAndGet env user organizationId memberUserId) fun seat log =>
      (seat.organizationId = organizationId ∧ seat.userId = memberUserId) ∧ FoundAdmin user organizationId log ∧ K log := by
  apply Ends.bind (keepsRequireAdmin stable)
  intro _
  apply Ends.bind (keepsRead (stableBoth (adminStable user organizationId) stable))
  intro found
  cases found with
  | none => exact .raise fun _ _ => trivial
  | some seat =>
    apply Ends.pure
    intro log known
    obtain ⟨⟨v, -, found⟩, rest⟩ := known
    exact ⟨by simpa using List.find?_some found.symm, rest⟩

theorem keepsChangeRole {organizationId memberUserId : Nat} {role : Role} (stable : Stable K)
    (signed : ∀ log, K log → SignedIn user log) (same : asked = .changeRole organizationId memberUserId role) :
    Keeps env user asked K (changeRole env user organizationId memberUserId role) fun _ log => SignedIn user log := by
  apply Ends.bind (keepsRequireAdminAndGet stable)
  intro seat
  apply Ends.given
  intro named
  have flushed : Keeps env user asked (fun log => FoundAdmin user organizationId log ∧ K log)
      (flushRole env seat role) fun _ log => SignedIn user log := by
    unfold flushRole
    split
    · exact .pure fun log known => signed log known.2
    · apply Ends.after (keepsGuarded (stableBoth (adminStable user organizationId) stable) _ _)
      · exact fun _ log known => signed log known.2.2
      · exact fun log known => signed log known.2
      · intro log known
        rw [Checked, named.1, named.2]
        exact ⟨same, known.1⟩
  apply Ends.bind flushed
  exact fun _ => .pure fun log known => known

theorem keepsRemoveMember {organizationId memberUserId : Nat} (stable : Stable K)
    (signed : ∀ log, K log → SignedIn user log) (same : asked = .removeMember organizationId memberUserId) :
    Keeps env user asked K (removeMember env user organizationId memberUserId) fun _ log => SignedIn user log := by
  apply Ends.bind (keepsRequireAdminAndGet stable)
  intro seat
  apply Ends.given
  intro named
  apply Ends.after
  · apply keepsStatement (stableBoth (adminStable user organizationId) stable)
    intro log v known w member
    split at member
    · cases List.mem_singleton.mp member
      refine ⟨signed log known.2, ?_⟩
      rw [Checked, named.1, named.2]
      exact ⟨same, known.1⟩
    · contradiction
  · exact fun _ log known => signed log known.2.2

end Programs

theorem keepsRespond {env : Env} {user : Nat} (asked : Request) :
    Keeps env user asked (SignedIn user) (respond env user asked) fun _ => SignedIn user := by
  have stable := signedStable user
  have signed : ∀ log, SignedIn user log → SignedIn user log := fun _ known => known
  cases asked with
  | createOrganization name =>
    apply Ends.bind (keepsCreateOrganization stable signed rfl)
    intro details
    apply Ends.bind (keepsRecord stable signed)
    exact fun _ => .pure fun log known => known
  | getOrganization organizationId =>
    apply Ends.bind (keepsGetOrganization stable signed)
    exact fun _ => .pure fun log known => known
  | listMembers organizationId =>
    apply Ends.bind (keepsListMembers stable signed)
    exact fun _ => .pure fun log known => known
  | addMember organizationId userId role =>
    apply Ends.bind (keepsAddMember stable signed rfl)
    intro details
    apply Ends.bind (keepsRecord stable signed)
    exact fun _ => .pure fun log known => known
  | changeRole organizationId userId role =>
    apply Ends.bind (keepsChangeRole stable signed rfl)
    intro details
    apply Ends.bind (keepsRecord stable signed)
    exact fun _ => .pure fun log known => known
  | removeMember organizationId userId =>
    apply Ends.bind (keepsRemoveMember stable signed rfl)
    intro details
    apply Ends.bind (keepsRecord stable signed)
    exact fun _ => .pure fun log known => known
  | createTarget hostname url ownerOrganizationId =>
    apply Ends.bind (keepsRegisterTarget stable signed rfl)
    exact fun _ => .pure fun log known => known
  | getTarget targetId =>
    apply Ends.bind (keepsVisibleTarget stable)
    exact fun _ => .pure fun log known => known.2.2
  | updateTarget targetId isArchived =>
    apply Ends.bind (keepsSetArchived stable signed (.inl rfl))
    exact fun _ => .pure fun log known => known
  | deleteTarget targetId =>
    apply Ends.bind (keepsSetArchived stable signed (.inr ⟨rfl, rfl⟩))
    exact fun _ => .pure fun log known => known
  | createAttestation targetId expiresAt evidenceFileRef =>
    apply Ends.bind (keepsCreateSelfAttestation stable signed rfl)
    exact fun _ => .pure fun log known => known
  | listAttestations targetId =>
    apply Ends.bind (keepsListForTarget stable signed)
    exact fun _ => .pure fun log known => known
  | revokeAttestation attestationId reason =>
    apply Ends.bind (keepsRevoke stable signed rfl)
    exact fun _ => .pure fun log known => known

theorem keepsRequest {user : Nat} (call : Call) (named : call.token = some user) :
    Keeps call.env user call.asked (fun _ => True) call.program fun _ _ => True := by
  unfold Call.program request
  rw [named]
  apply Ends.session
  · intro log site v ws same
    contradiction
  · apply Ends.bind (Q := fun found log => found = user ∧ SignedIn user log)
    · apply Ends.bind (keepsRead fun _ _ _ => trivial)
      intro found
      split
      · rename_i active
        apply Ends.pure
        intro log known
        obtain ⟨⟨v, read, same⟩, -⟩ := known
        exact ⟨rfl, v, read, same ▸ active⟩
      · exact .raise fun _ _ => trivial
    · intro found
      apply Ends.given
      rintro rfl
      apply Ends.bind (keepsRespond call.asked)
      intro answer
      unfold Env.commit
      split
      · exact .raise fun _ _ => trivial
      · apply Ends.commit (R := fun _ => True)
        · refine fun log _ => ⟨fun site v ws same => by contradiction, trivial⟩
        · exact .pure fun _ _ => trivial
  · exact fun _ _ _ _ => trivial
  · exact fun _ _ _ _ => trivial

def Call.contract (call : Call) : Contract Store Write Site :=
  call.token.elim silence fun user => checks call.env user call.asked

def contractAt (calls : List Call) (i : Nat) : Contract Store Write Site := calls[i]?.elim silence Call.contract

theorem checkedValid (calls : List Call) (i : Nat) (p : Prog Unit) (found : (calls.map Call.program)[i]? = some p) :
    wp (contractAt calls i) [] p fun _ _ => True := by
  simp only [List.getElem?_map, Option.map_eq_some_iff] at found
  obtain ⟨call, here, rfl⟩ := found
  rw [contractAt, here, Option.elim_some, Call.contract]
  cases named : call.token with
  | none =>
    rw [silentRequest call named]
    exact fun _ => ⟨fun site v ws same => by contradiction, trivial⟩
  | some user => exact wpMono (fun _ _ _ => trivial) (keepsRequest call named [] trivial)

theorem checksOwed (calls : List Call) (store : Store) {trace : Trace}
    {t : System Store Write Site PyError} (run : Run rows (started store calls) trace t) :
    ∀ before i e after, trace = before ++ (i, e) :: after → (contractAt calls i).guarantee (own i before) e := by
  have crashes : ∀ i log, (contractAt calls i).guarantee log .crash := by
    intro i log
    unfold contractAt
    cases calls[i]? with
    | none => exact fun site v ws same => by contradiction
    | some call =>
      rw [Option.elim_some, Call.contract]
      cases call.token <;> exact fun site v ws same => by contradiction
  have assumed : ∀ i log e, (contractAt calls i).assume log e := by
    intro i log e
    unfold contractAt
    cases calls[i]? with
    | none => trivial
    | some call =>
      rw [Option.elim_some, Call.contract]
      cases call.token <;> trivial
  exact (runRelies (checkedValid calls) crashes (fun _ _ => True) trivial
    (fun _ _ _ _ _ _ _ _ _ _ => assumed _ _ _) (fun _ _ _ _ _ _ _ _ _ _ _ => trivial) run).2.1

theorem statementChecked {calls : List Call} {i : Nat} {log : Log} {site : Site} {v : Store} {ws : List Write}
    (kept : (contractAt calls i).guarantee log (.exec site v ws)) {w : Write} (member : w ∈ ws) :
    ∃ call user, calls[i]? = some call ∧ call.token = some user ∧ SignedIn user log ∧
      Checked call.env user call.asked log w := by
  unfold contractAt at kept
  cases here : calls[i]? with
  | none =>
    rw [here] at kept
    exact absurd rfl (kept site v ws)
  | some call =>
    rw [here, Option.elim_some, Call.contract] at kept
    cases named : call.token with
    | none =>
      rw [named] at kept
      exact absurd rfl (kept site v ws)
    | some user =>
      rw [named] at kept
      obtain ⟨signed, allowed⟩ := kept site v ws rfl w member
      exact ⟨call, user, rfl, named, signed, allowed⟩

def attestingCalls : List Call :=
  [⟨quietEnv 21, some 1, .createAttestation 5 none none⟩, ⟨quietEnv 22, some 1, .revokeAttestation 21 (py "done")⟩]

end SentinelGpt.Tenancy
