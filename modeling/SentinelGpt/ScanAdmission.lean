import SentinelGpt.JobStages

/-! The requests that create a scan, a new one of an attested target and one that repeats
an earlier scan, and the one that revokes an attestation. -/
namespace SentinelGpt
open ReadCommitted

namespace Db

def isMember (db : Db) (user organization : Nat) : Bool :=
  db.memberships.any fun m => m.userId == user && m.organizationId == organization

def visible (db : Db) (user : Nat) (target : Target) : Bool :=
  target.ownerUserId == some user || target.ownerOrganizationId.any (db.isMember user)

def latestActiveConfirmed (db : Db) (now : Time) (targetId : Nat) :
    Option AuthorizationAttestation :=
  newest AuthorizationAttestation.createdAt
    (db.attestations.filter fun a => a.targetId == targetId && attestationActive a now)

end Db

def assertPrincipal : Option Nat → Prog Nat
  | none => throw .notAuthenticatedError
  | some user => return user

def memberOrNotFound (env : Env) (memberSite : Site) (user : Nat) (target : Target) : Prog Target :=
  match target.ownerOrganizationId with
  | none => throw .notFoundError
  | some organization => do
    if ← env.read memberSite fun db => db.isMember user organization then return target
    else throw .notFoundError

/- Targets of others are indistinguishable from missing ones. -/
def getVisibleTarget (env : Env) (getSite memberSite : Site) (user targetId : Nat) :
    Prog Target := do
  match ← env.read getSite fun db => db.target? targetId with
  | none => throw .notFoundError
  | some target =>
    if target.ownerUserId == some user then return target
    else memberOrNotFound env memberSite user target

/- `AttestationService.latest_active_confirmed`, and the refusal when it answers None. -/
def activeAttestation (env : Env) (targetId : Nat) : Prog AuthorizationAttestation := do
  let found ← env.read .latestActiveConfirmed fun db =>
    db.latestActiveConfirmed (env.now .latestActiveConfirmed) targetId
  match found with
  | none => throw .attestationNotConfirmedError
  | some attestation => do
    env.read .methodCodeMap fun _ => ()
    return attestation

def profileId (env : Env) (code : PyStr) : Prog Nat := do
  let found ← env.read .profileId fun _ => scanProfiles.find? fun entry => entry.2 == code
  match found with
  | none => throw .lookupError
  | some entry => return entry.1

def profileCodeForId (env : Env) (id : Nat) : Prog PyStr := do
  let found ← env.read .requestProfile fun _ => scanProfiles.find? fun entry => entry.1 == id
  match found with
  | none => throw .lookupError
  | some entry => return entry.2

def admittedScan (env : Env) (targetId profile user attestation : Nat) (parent : Option Nat) :
    Scan where
  id := env.newId .insertScan 0
  targetId := targetId
  scanProfileId := profile
  initiatedByUserId := user
  authorizationAttestationId := attestation
  status := .queued
  parentScanId := parent
  queuedAt := some (env.now .insertScan)
  startedAt := none
  completedAt := none
  createdAt := env.now .insertScan

def requestedRow (env : Env) (scan : Scan) (metadata : List (PyStr × PyStr)) : AuditLogEntry where
  actorUserId := some scan.initiatedByUserId
  actionCode := py "SCAN_REQUESTED"
  entityType := py "scan"
  entityId := scan.id
  metadataJson := metadata
  occurredAt := env.now .insertScan

def createdEntries (scan : Scan) (profileCode : PyStr) : List (PyStr × PyStr) :=
  [(py "targetId", uuidStr scan.targetId), (py "scanProfile", profileCode),
   (py "authorizationAttestationId", uuidStr scan.authorizationAttestationId)]

def rescannedEntries (scan original : Scan) (profileCode : PyStr) : List (PyStr × PyStr) :=
  [(py "targetId", uuidStr scan.targetId), (py "parentScanId", uuidStr original.id),
   (py "scanProfile", profileCode),
   (py "authorizationAttestationId", uuidStr scan.authorizationAttestationId)]

def createScan (env : Env) (principal : Option Nat) (targetId : Nat) (scanProfileCode : PyStr) :
    Prog ScanDetails := do
  let user ← assertPrincipal principal
  let target ← getVisibleTarget env .admitGetTarget .admitIsMember user targetId
  if target.isArchived then throw .notFoundError
  let attestation ← activeAttestation env targetId
  statusIdsByCode env .admitStatusIds
  let profile ← profileId env scanProfileCode
  let scan := admittedScan env target.id profile user attestation.id none
  env.write .insertScan [.insertScan scan]
  env.write .requestAudit [.insertAudit (requestedRow env scan (createdEntries scan scanProfileCode))]
  details env .admitDetails .admitProfile scan

/- The target of the earlier scan is taken as it is. -/
def rescanScan (env : Env) (principal : Option Nat) (scanId : Nat) : Prog ScanDetails := do
  let original ← getVisibleScan env .admitGetScan principal scanId
  let user ← assertPrincipal principal
  let latest ← activeAttestation env original.targetId
  statusIdsByCode env .admitStatusIds
  let scan := admittedScan env original.targetId original.scanProfileId user latest.id
    (some original.id)
  env.write .insertScan [.insertScan scan]
  let profileCode ← profileCodeForId env original.scanProfileId
  env.write .requestAudit
    [.insertAudit (requestedRow env scan (rescannedEntries scan original profileCode))]
  details env .admitDetails .admitProfile scan

inductive Admission where
  | create (targetId : Nat) (scanProfileCode : PyStr)
  | rescan (scanId : Nat)
  deriving DecidableEq, Repr

def admitScan (env : Env) (principal : Option Nat) : Admission → Prog ScanDetails
  | .create targetId scanProfileCode => createScan env principal targetId scanProfileCode
  | .rescan scanId => rescanScan env principal scanId

def enqueueScan (env : Env) (executionEnabled : Bool) : Prog Unit := do
  if executionEnabled then
    .call .enqueue (.pure ())
    env.attempt .enqueue

def admissionRequest (env : Env) (principal : Option Nat) (executionEnabled : Bool)
    (request : Admission) : Prog Unit :=
  Program.session do
    let _ ← admitScan env principal request
    enqueueScan env executionEnabled
    env.commit .admitCommit

/-! The revocation of an attestation. -/

def revokedRow (env : Env) (user attestationId : Nat) (reason : PyStr) : AuditLogEntry where
  actorUserId := some user
  actionCode := py "ATTESTATION_REVOKED"
  entityType := py "authorization_attestation"
  entityId := attestationId
  metadataJson := [(py "reason", reason.take 1000)]
  occurredAt := env.now .revokeAudit

def revoke (env : Env) (user attestationId : Nat) (reason : PyStr) : Prog Unit := do
  match ← env.read .revokeGet fun db => db.attestation? attestationId with
  | none => throw .notFoundError
  | some attestation => do
    let _ ← getVisibleTarget env .revokeGetTarget .revokeIsMember user attestation.targetId
    env.write .revokeUpdate [.revokeAttestation attestation.id]
    env.write .revokeAudit [.insertAudit (revokedRow env user attestation.id reason)]
    env.read .revokeMethodCodeMap fun _ => ()

def revokeRequest (env : Env) (user attestationId : Nat) (reason : PyStr) : Prog Unit :=
  Program.session do
    revoke env user attestationId reason
    env.commit .revokeCommit

def Db.openTo (db : Db) (user targetId : Nat) : Prop :=
  ∃ target, db.target? targetId = some target ∧ db.visible user target = true ∧
    target.isArchived = false

def Db.attested (db : Db) (now : Time) (scan : Scan) : Prop :=
  ∃ attestation ∈ db.attestations, attestation.id = scan.authorizationAttestationId ∧
    attestation.targetId = scan.targetId ∧ attestationActive attestation now = true

/- The scan passed the gate in this state. -/
structure Gated (db : Db) (now : Time) (scan : Scan) : Prop where
  target : db.openTo scan.initiatedByUserId scan.targetId
  attestation : db.attested now scan

def Admission.targetOpen (db : Db) (user : Nat) : Admission → Prop
  | .create _ _ => True
  | .rescan scanId => ∀ original, db.scan? scanId = some original → db.openTo user original.targetId

section Gate
variable {env : Env} {store : Db} {pending : List Write}

theorem newestMem {α : Type} {time : α → Time} {rows : List α} {row : α}
    (found : newest time rows = some row) : row ∈ rows := by
  induction rows with
  | nil => contradiction
  | cons head rest ih =>
    simp only [newest] at found
    cases best : newest time rest with
    | none =>
      rw [best] at found
      cases found
      exact List.mem_cons_self
    | some other =>
      rw [best] at found
      simp only at found
      split at found
      · cases found
        exact List.mem_cons_of_mem _ (ih best)
      · cases found
        exact List.mem_cons_self

theorem latestActiveSound {db : Db} {now : Time} {targetId : Nat} {a : AuthorizationAttestation}
    (found : db.latestActiveConfirmed now targetId = some a) :
    a ∈ db.attestations ∧ a.targetId = targetId ∧ attestationActive a now = true := by
  obtain ⟨member, keep⟩ := List.mem_filter.mp (newestMem found)
  simp only [Bool.and_eq_true, beq_iff_eq] at keep
  exact ⟨member, keep.1, keep.2⟩

theorem yieldsStatement (site : Site) (writes : Db → List Write) {α : Type} (result : Db → α) :
    Yields Write.effect (env.statement site writes result) store pending fun staged a =>
      staged = pending ++ writes (seen store pending) ∧
        a = result (seen store pending) := by
  unfold Env.statement
  split
  · exact .raise
  · refine ⟨rfl, ?_⟩
    rintro a ⟨⟩
    exact ⟨rfl, rfl⟩

theorem yieldsRead (site : Site) {α : Type} (result : Db → α) :
    Yields Write.effect (env.read site result) store pending fun staged a =>
      staged = pending ∧ a = result (seen store pending) := by
  have yields : Yields Write.effect (env.read site result) store pending _ :=
    yieldsStatement site (fun _ => []) result
  refine ⟨yields.kept, fun a ok => ?_⟩
  obtain ⟨same, value⟩ := yields.answer a ok
  exact ⟨same.trans (List.append_nil _), value⟩

theorem yieldsWrite (site : Site) (writes : List Write) :
    Yields Write.effect (env.write site writes) store pending fun staged _ =>
      staged = pending ++ writes := by
  have yields : Yields Write.effect (env.write site writes) store pending _ :=
    yieldsStatement site (fun _ => writes) fun _ => ()
  exact ⟨yields.kept, fun a ok => (yields.answer a ok).1⟩

theorem yieldsVisibleTarget (getSite memberSite : Site) (user targetId : Nat) :
    Yields Write.effect (getVisibleTarget env getSite memberSite user targetId) store pending
      fun staged target => staged = pending ∧
        (seen store pending).target? targetId = some target ∧
        (seen store pending).visible user target = true := by
  refine .bind (yieldsRead _ _) ?_
  rintro _ found ⟨rfl, rfl⟩
  split
  · exact .raise
  · rename_i target found
    split
    · rename_i owner
      exact .pure ⟨rfl, found, by rw [Db.visible, owner, Bool.true_or]⟩
    · unfold memberOrNotFound
      split
      · exact .raise
      · rename_i organization owner
        refine .bind (yieldsRead _ _) ?_
        rintro _ member ⟨rfl, rfl⟩
        split
        · rename_i member
          exact .pure ⟨rfl, found, by rw [Db.visible, owner, Option.any_some, member, Bool.or_true]⟩
        · exact .raise

theorem yieldsActive (targetId : Nat) :
    Yields Write.effect (activeAttestation env targetId) store pending fun staged attestation =>
      staged = pending ∧ attestation ∈ (seen store pending).attestations ∧
        attestation.targetId = targetId ∧
        attestationActive attestation (env.now .latestActiveConfirmed) = true := by
  refine .bind (yieldsRead _ _) ?_
  rintro _ found ⟨rfl, rfl⟩
  split
  · exact .raise
  · rename_i attestation found
    refine .bind (yieldsRead _ _) ?_
    rintro _ _ ⟨rfl, -⟩
    exact .pure ⟨rfl, latestActiveSound found⟩

theorem yieldsPrincipal (principal : Option Nat) :
    Yields Write.effect (assertPrincipal principal) store pending fun staged user =>
      staged = pending ∧ principal = some user := by
  cases principal with
  | none => exact .raise
  | some user => exact .pure ⟨rfl, rfl⟩

theorem yieldsVisibleScan (site : Site) (principal : Option Nat) (scanId : Nat) :
    Yields Write.effect (getVisibleScan env site principal scanId) store pending
      fun staged scan => staged = pending ∧ (seen store pending).scan? scanId = some scan := by
  refine .bind (yieldsRead _ _) ?_
  rintro _ found ⟨rfl, rfl⟩
  split
  · exact .raise
  · rename_i scan found
    split
    · exact .raise
    · exact .pure ⟨rfl, found⟩

theorem yieldsProfile (code : PyStr) :
    Yields Write.effect (profileId env code) store pending fun staged _ => staged = pending := by
  refine .bind (yieldsRead _ _) ?_
  rintro _ found ⟨rfl, -⟩
  split
  · exact .raise
  · exact .pure rfl

theorem yieldsProfileCode (id : Nat) :
    Yields Write.effect (profileCodeForId env id) store pending fun staged _ => staged = pending := by
  refine .bind (yieldsRead _ _) ?_
  rintro _ found ⟨rfl, -⟩
  split
  · exact .raise
  · exact .pure rfl

theorem yieldsDetails (statusSite profileSite : Site) (scan : Scan) :
    Yields Write.effect (details env statusSite profileSite scan) store pending fun staged shown =>
      staged = pending ∧ shown.id = scan.id := by
  refine .bind (yieldsRead _ _) ?_
  rintro _ _ ⟨rfl, -⟩
  refine .bind (yieldsRead _ _) ?_
  rintro _ found ⟨rfl, -⟩
  split
  · exact .raise
  · exact .pure ⟨rfl, rfl⟩

structure Admitted (env : Env) (db : Db) (principal : Option Nat) (request : Admission)
    (scan : Scan) : Prop where
  id : scan.id = env.newId .insertScan 0
  queued : scan.status = .queued
  requester : principal = some scan.initiatedByUserId
  attested : db.attested (env.now .latestActiveConfirmed) scan
  target : match request with
    | .create targetId _ => scan.targetId = targetId ∧ db.openTo scan.initiatedByUserId targetId
    | .rescan scanId => ∃ original, db.scan? scanId = some original ∧
        scan.targetId = original.targetId ∧ scan.parentScanId = some original.id

def admittedWrites (env : Env) (db : Db) (principal : Option Nat) (request : Admission)
    (staged : List Write) : Prop :=
  ∃ scan entry, staged = [.insertScan scan, .insertAudit entry] ∧
    Admitted env db principal request scan

theorem targetNamed {db : Db} {id : Nat} {target : Target} (found : db.target? id = some target) :
    target.id = id := by
  simpa using List.find?_some found

theorem yieldsCreate (principal : Option Nat) (targetId : Nat) (scanProfileCode : PyStr) :
    Yields Write.effect (createScan env principal targetId scanProfileCode) store []
      fun staged _ => admittedWrites env store principal (.create targetId scanProfileCode)
        staged := by
  refine .bind (yieldsPrincipal _) ?_
  rintro _ user ⟨rfl, named⟩
  refine .bind (yieldsVisibleTarget _ _ _ _) ?_
  rintro _ target ⟨rfl, found, sees⟩
  split
  · exact .raise
  rename_i open_
  refine .bind (yieldsActive _) ?_
  rintro _ attestation ⟨rfl, stored, covers, active⟩
  refine .bind (yieldsRead _ _) ?_
  rintro _ _ ⟨rfl, -⟩
  refine .bind (yieldsProfile _) ?_
  rintro _ profile rfl
  refine .bind (yieldsWrite _ _) ?_
  rintro _ _ rfl
  refine .bind (yieldsWrite _ _) ?_
  rintro _ _ rfl
  have same := targetNamed found
  refine ⟨(yieldsDetails _ _ _).kept, fun shown ok => ?_⟩
  refine ⟨_, _, ((yieldsDetails _ _ _).answer shown ok).1, rfl, rfl, named, ?_, same, ?_⟩
  · exact ⟨attestation, stored, rfl, covers.trans same.symm, active⟩
  · exact ⟨target, found, sees, by simpa using open_⟩

theorem yieldsRescan (principal : Option Nat) (scanId : Nat) :
    Yields Write.effect (rescanScan env principal scanId) store []
      fun staged _ => admittedWrites env store principal (.rescan scanId) staged := by
  refine .bind (yieldsVisibleScan _ _ _) ?_
  rintro _ original ⟨rfl, found⟩
  refine .bind (yieldsPrincipal _) ?_
  rintro _ user ⟨rfl, named⟩
  refine .bind (yieldsActive _) ?_
  rintro _ attestation ⟨rfl, stored, covers, active⟩
  refine .bind (yieldsRead _ _) ?_
  rintro _ _ ⟨rfl, -⟩
  refine .bind (yieldsWrite _ _) ?_
  rintro _ _ rfl
  refine .bind (yieldsProfileCode _) ?_
  rintro _ profile rfl
  refine .bind (yieldsWrite _ _) ?_
  rintro _ _ rfl
  refine ⟨(yieldsDetails _ _ _).kept, fun shown ok => ?_⟩
  refine ⟨_, _, ((yieldsDetails _ _ _).answer shown ok).1, rfl, rfl, named, ?_, ?_⟩
  · exact ⟨attestation, stored, rfl, covers, active⟩
  · exact ⟨original, found, rfl, rfl⟩

theorem yieldsAdmit (principal : Option Nat) (request : Admission) :
    Yields Write.effect (admitScan env principal request) store [] fun staged _ =>
      admittedWrites env store principal request staged := by
  cases request with
  | create targetId scanProfileCode => exact yieldsCreate principal targetId scanProfileCode
  | rescan scanId => exact yieldsRescan principal scanId

theorem yieldsEnqueue (executionEnabled : Bool) :
    Yields Write.effect (enqueueScan env executionEnabled) store pending fun staged _ =>
      staged = pending := by
  have attempt : Yields Write.effect (env.attempt .enqueue) store pending fun staged _ =>
      staged = pending := by
    unfold Env.attempt
    split
    · exact .raise
    · exact .pure rfl
  unfold enqueueScan
  split
  · exact ⟨attempt.kept, attempt.answer⟩
  · exact .pure rfl

end Gate

def Leaves (env : Env) (principal : Option Nat) (request : Admission) (db store : Db) : Prop :=
  store = db ∨ ∃ staged, admittedWrites env db principal request staged ∧ store = seen db staged

theorem admissionLeaves (env : Env) (principal : Option Nat) (executionEnabled : Bool)
    (request : Admission) (db : Db) : Leaves env principal request db
      (solo Write.effect (admissionRequest env principal executionEnabled request) db []).store := by
  rw [admissionRequest, soloSession]
  refine (yieldsAdmit principal request).storeAfter (.inl rfl) fun staged _ writes => ?_
  refine (yieldsEnqueue executionEnabled).storeAfter (.inl rfl) ?_
  rintro _ _ rfl
  unfold Env.commit
  split
  · exact .inl rfl
  · exact .inr ⟨_, writes, rfl⟩

def createdScans (env : Env) (principal : Option Nat) (executionEnabled : Bool)
    (request : Admission) (db : Db) : List Scan :=
  (solo Write.effect (admissionRequest env principal executionEnabled request) db []).store.scans.drop
    db.scans.length

theorem createdAdmitted {env : Env} {principal : Option Nat} {executionEnabled : Bool}
    {request : Admission} {db : Db} {scan : Scan}
    (created : scan ∈ createdScans env principal executionEnabled request db) :
    Admitted env db principal request scan := by
  unfold createdScans at created
  rcases admissionLeaves env principal executionEnabled request db with same | ⟨staged, writes, same⟩
  · rw [same, List.drop_length] at created
    contradiction
  · obtain ⟨row, entry, rfl, admitted⟩ := writes
    have rows : (seen db [.insertScan row, .insertAudit entry]).scans = db.scans ++ [row] := rfl
    rw [same, rows, List.drop_left, List.mem_singleton] at created
    exact created ▸ admitted

theorem gatedIffTargetOpen {env : Env} {principal : Option Nat} {executionEnabled : Bool}
    {request : Admission} {db : Db} {scan : Scan}
    (created : scan ∈ createdScans env principal executionEnabled request db) :
    Gated db (env.now .latestActiveConfirmed) scan ↔
      ∀ user, principal = some user → request.targetOpen db user := by
  obtain ⟨-, -, requester, attested, target⟩ := createdAdmitted created
  subst requester
  cases request with
  | create targetId scanProfileCode =>
    obtain ⟨rfl, open_⟩ := target
    exact ⟨fun _ _ _ => trivial, fun _ => ⟨open_, attested⟩⟩
  | rescan scanId =>
    obtain ⟨original, found, same, -⟩ := target
    constructor
    · rintro ⟨open_, -⟩ user named other found'
      cases named
      cases found.symm.trans found'
      exact same ▸ open_
    · intro all
      exact ⟨same ▸ all _ rfl original found, attested⟩

/-! A scan repeated after its target was archived. -/

def archivedDb : Db :=
  { queuedDb with
    scans := [{ queuedScan 1 none with status := .reportReady, completedAt := some 1 }]
    targets := [⟨1, none, some 1, py "example.com", py "https://example.com/", true⟩] }

def requestEnv : Env := plainEnv (Python.onAscii []) 5 (plainPipeline answeredResult) noFault

def createdScan (id : Nat) (parent : Option Nat) : Scan :=
  { queuedScan id parent with queuedAt := some 5, createdAt := 5 }

theorem newScanGated :
    createdScan 500 none ∈
        createdScans requestEnv (some 1) true (.create 1 (py "standard")) queuedDb ∧
      Gated queuedDb (requestEnv.now .latestActiveConfirmed) (createdScan 500 none) := by
  have created : createdScan 500 none ∈
      createdScans requestEnv (some 1) true (.create 1 (py "standard")) queuedDb := by
    decide +kernel
  exact ⟨created, (gatedIffTargetOpen created).mpr fun _ _ => trivial⟩

theorem archivedTargetRescanned :
    createdScan 500 (some 1) ∈ createdScans requestEnv (some 1) true (.rescan 1) archivedDb ∧
      ¬ Gated archivedDb (requestEnv.now .latestActiveConfirmed) (createdScan 500 (some 1)) := by
  refine ⟨by decide +kernel, ?_⟩
  rintro ⟨⟨target, found, -, kept⟩, -⟩
  cases found
  contradiction

end SentinelGpt
