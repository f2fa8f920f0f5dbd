import SentinelGpt.ScanLifecycle
import SentinelGpt.Findings
import SentinelGpt.TransactionRuns

/-! The tables the scan services read and write, as lists of rows in the order of their
insertion, and the effect of their statements. -/
namespace SentinelGpt

structure Scan where
  id : Nat
  targetId : Nat
  scanProfileId : Nat
  initiatedByUserId : Nat
  authorizationAttestationId : Nat
  status : ScanStatus
  parentScanId : Option Nat
  queuedAt : Option Time
  startedAt : Option Time
  completedAt : Option Time
  createdAt : Time
  deriving DecidableEq, Repr

inductive ExecutionStatus where
  | pending
  | running
  | succeeded
  | failed
  | timedOut
  deriving DecidableEq, Repr

structure ScanEngineExecution where
  id : Nat
  scanId : Nat
  scanEngineId : Nat
  toolVersionSnapshot : PyStr
  status : ExecutionStatus
  startedAt : Option Time
  completedAt : Option Time
  errorMessage : Option PyStr
  deriving DecidableEq, Repr

structure ScanFinding where
  id : Nat
  executionId : Nat
  categoryId : Nat
  severityId : Nat
  title : PyStr
  description : PyStr
  evidence : PyStr
  location : PyStr
  recommendation : PyStr
  fingerprint : Option PyStr
  targetId : Option Nat
  scanId : Option Nat
  sourceEngineCode : Option PyStr
  affectedAsset : Option PyStr
  deriving DecidableEq, Repr

inductive EvidenceType where
  | rawHeader
  | toolOutputSnippet
  | responseBodySnippet
  | requestMetadata
  deriving DecidableEq, Repr

structure FindingEvidence where
  findingId : Nat
  evidenceType : EvidenceType
  content : PyStr
  deriving DecidableEq, Repr

structure FindingStatusHistory where
  fingerprint : PyStr
  targetId : Nat
  status : LifecycleStatus
  observedInScanId : Nat
  effectiveAt : Time
  deriving DecidableEq, Repr

structure ScanAiAssessment where
  id : Nat
  executionId : Nat
  provider : PyStr
  model : PyStr
  promptSchemaVersion : PyStr
  outputSchemaVersion : PyStr
  isAvailable : Bool
  failureKind : Option PyStr
  unsupportedClaimCount : Int
  payload : List (PyStr × Json)
  deriving Repr

structure AuditLogEntry where
  actorUserId : Option Nat
  actionCode : PyStr
  entityType : PyStr
  entityId : Nat
  metadataJson : List (PyStr × PyStr)
  occurredAt : Time
  deriving DecidableEq, Repr

inductive AttestationStatus where
  | pending
  | confirmed
  | revoked
  deriving DecidableEq, Repr

structure AuthorizationAttestation where
  id : Nat
  targetId : Nat
  status : AttestationStatus
  expiresAt : Option Time
  createdAt : Time
  deriving DecidableEq, Repr

structure Target where
  id : Nat
  ownerOrganizationId : Option Nat
  ownerUserId : Option Nat
  hostname : PyStr
  normalizedUrl : PyStr
  isArchived : Bool
  deriving DecidableEq, Repr

structure OrganizationMembership where
  userId : Nat
  organizationId : Nat
  deriving DecidableEq, Repr

structure Db where
  scans : List Scan
  executions : List ScanEngineExecution
  findings : List ScanFinding
  evidence : List FindingEvidence
  history : List FindingStatusHistory
  assessments : List ScanAiAssessment
  auditLog : List AuditLogEntry
  attestations : List AuthorizationAttestation
  targets : List Target
  memberships : List OrganizationMembership
  deriving Repr

/-! The seeded lookup tables whose ids are not enumerated above. -/

def scanEngines : List (Nat × PyStr) :=
  [(1, py "katana"), (2, py "nuclei"), (3, py "nikto"), (4, py "headers-analyzer"),
   (5, py "ssl-inspector"), (6, py "dns-lookup"), (7, py "whois-lookup")]

def findingCategories : List (PyStr × Nat) :=
  [(py "MISSING_SECURITY_HEADER", 1), (py "OUTDATED_TLS", 2), (py "KNOWN_CVE", 3),
   (py "EXPOSED_ADMIN_PANEL", 4), (py "DNS_MISCONFIGURATION", 5), (py "WEAK_CIPHER", 6)]

def severityLevels : Severity → Nat
  | .info => 0
  | .low => 1
  | .medium => 2
  | .high => 3
  | .critical => 4

def scanProfiles : List (Nat × PyStr) :=
  [(1, py "quick-check"), (2, py "standard"), (3, py "full-assessment")]

namespace Db

def scan? (db : Db) (id : Nat) : Option Scan := db.scans.find? fun s => s.id == id

def statusOf (db : Db) (id : Nat) : Option ScanStatus := (db.scan? id).map Scan.status

def target? (db : Db) (id : Nat) : Option Target := db.targets.find? fun t => t.id == id

def attestation? (db : Db) (id : Nat) : Option AuthorizationAttestation :=
  db.attestations.find? fun a => a.id == id

def attestationKeys (db : Db) : List (Nat × Nat) := db.attestations.map fun a => (a.id, a.targetId)

def fingerprintsForScan (db : Db) (scanId : Nat) : List PyStr :=
  ((db.findings.filter fun f => f.scanId == some scanId).filterMap ScanFinding.fingerprint).filter
    fun fp => !fp.isEmpty

def historyOf (db : Db) (targetId : Nat) (fingerprint : PyStr) : List FindingStatusHistory :=
  db.history.filter fun row => row.targetId == targetId && row.fingerprint == fingerprint

end Db

/- The first row of `ORDER BY time DESC`; of rows of one time, the last inserted. -/
def newest {α : Type} (time : α → Time) : List α → Option α
  | [] => none
  | row :: rows => match newest time rows with
    | none => some row
    | some best => if time row ≤ time best then some best else some row

namespace Db

def latestStatus (db : Db) (targetId : Nat) (fingerprint : PyStr) : Option LifecycleStatus :=
  (newest FindingStatusHistory.effectiveAt (db.historyOf targetId fingerprint)).map
    FindingStatusHistory.status

def completedScans (db : Db) (targetId current : Nat) : List (Nat × Time) :=
  (db.scans.filter fun s => s.targetId == targetId && s.id != current).filterMap fun s =>
    s.completedAt.map fun ended => (s.id, ended)

def mostRecentCompleted (db : Db) (targetId current : Nat) : Option Nat :=
  (newest Prod.snd (db.completedScans targetId current)).map Prod.fst

end Db

/- The writes of the statements. A transition is the row an UPDATE has found in the
status it asked for. -/
inductive Write where
  | insertScan (row : Scan)
  | transition (scanId : Nat) (target : ScanStatus) (startedAt completedAt : Option Time)
  | insertExecution (row : ScanEngineExecution)
  | markExecution (id : Nat) (status : ExecutionStatus) (completedAt : Time)
      (errorMessage : Option PyStr)
  | insertFindings (rows : List ScanFinding)
  | insertEvidence (rows : List FindingEvidence)
  | insertHistory (rows : List FindingStatusHistory)
  | insertAudit (row : AuditLogEntry)
  | insertAssessment (row : ScanAiAssessment)
  | updateAssessment (id : Nat) (row : ScanAiAssessment)
  | revokeAttestation (id : Nat)
  deriving Repr

inductive RowKey where
  | scan (id : Nat)
  | execution (id : Nat)
  | assessment (id : Nat)
  | attestation (id : Nat)
  deriving DecidableEq, Repr

def updateRow {α : Type} (id : α → Nat) (key : Nat) (change : α → α) (rows : List α) : List α :=
  rows.map fun row => if id row = key then change row else row

def Scan.moved (target : ScanStatus) (startedAt completedAt : Option Time) (s : Scan) : Scan :=
  { s with status := target, startedAt := startedAt <|> s.startedAt,
           completedAt := completedAt <|> s.completedAt }

def ScanEngineExecution.marked (status : ExecutionStatus) (completedAt : Time)
    (errorMessage : Option PyStr) (e : ScanEngineExecution) : ScanEngineExecution :=
  { e with status := status, completedAt := some completedAt, errorMessage := errorMessage }

def AuthorizationAttestation.revoked (a : AuthorizationAttestation) : AuthorizationAttestation :=
  { a with status := .revoked }

def Write.effect (db : Db) : Write → Db
  | .insertScan row => { db with scans := db.scans ++ [row] }
  | .transition scanId target startedAt completedAt =>
      { db with scans := updateRow Scan.id scanId (Scan.moved target startedAt completedAt) db.scans }
  | .insertExecution row => { db with executions := db.executions ++ [row] }
  | .markExecution id status completedAt errorMessage =>
      let marked := ScanEngineExecution.marked status completedAt errorMessage
      { db with executions := updateRow ScanEngineExecution.id id marked db.executions }
  | .insertFindings rows => { db with findings := db.findings ++ rows }
  | .insertEvidence rows => { db with evidence := db.evidence ++ rows }
  | .insertHistory rows => { db with history := db.history ++ rows }
  | .insertAudit row => { db with auditLog := db.auditLog ++ [row] }
  | .insertAssessment row => { db with assessments := db.assessments ++ [row] }
  | .updateAssessment id row =>
      { db with assessments := updateRow ScanAiAssessment.id id (fun _ => row) db.assessments }
  | .revokeAttestation id =>
      { db with attestations :=
        updateRow AuthorizationAttestation.id id AuthorizationAttestation.revoked db.attestations }

def Write.locks : Write → List RowKey
  | .transition scanId _ _ _ => [.scan scanId]
  | .markExecution id _ _ _ => [.execution id]
  | .updateAssessment id _ => [.assessment id]
  | .revokeAttestation id => [.attestation id]
  | _ => []

def scanRows : ReadCommitted.Rows Db Write RowKey := ⟨Write.effect, Write.locks⟩

theorem scanIdOf {db : Db} {id : Nat} {scan : Scan} (found : db.scan? id = some scan) : scan.id = id := by
  have := List.find?_some found
  simpa using this

/-! Lookups after a write. -/

theorem findUpdateRow {α : Type} (id : α → Nat) (key : Nat) (change : α → α)
    (kept : ∀ row, id (change row) = id row) (rows : List α) (other : Nat) :
    (updateRow id key change rows).find? (fun row => id row == other) =
      (rows.find? fun row => id row == other).map fun row => if other = key then change row else row := by
  induction rows with
  | nil => rfl
  | cons row rest ih =>
    unfold updateRow at ih ⊢
    simp only [List.map_cons, List.find?_cons]
    by_cases same : id row = key
    · rw [if_pos same, kept]
      by_cases here : id row = other
      · simp [here, ← same]
      · simp [beq_false_of_ne here, ih]
    · rw [if_neg same]
      by_cases here : id row = other
      · have different : ¬ other = key := here ▸ same
        simp [here, different]
      · simp [beq_false_of_ne here, ih]

theorem filterUpdateRow {α : Type} (id : α → Nat) (key : Nat) (change : α → α)
    (kept : ∀ row, id (change row) = id row) (keep : α → Bool)
    (others : ∀ row, id row = key → keep row = false) (rows : List α) :
    (updateRow id key change rows).filter keep = rows.filter keep := by
  induction rows with
  | nil => rfl
  | cons row rest ih =>
    unfold updateRow at ih ⊢
    rw [List.map_cons, List.filter_cons, List.filter_cons, ih]
    by_cases same : id row = key
    · simp [same, others row same, others (change row) ((kept row).trans same)]
    · simp [same]

namespace Db

theorem completedTransition (db : Db) (targetId id : Nat) (target : ScanStatus)
    (startedAt completedAt : Option Time) :
    (Write.effect db (.transition id target startedAt completedAt)).completedScans targetId id =
      db.completedScans targetId id := by
  simp only [completedScans, Write.effect]
  rw [filterUpdateRow Scan.id id (Scan.moved target startedAt completedAt) (fun _ => rfl)]
  intro row same
  simp [same]

@[simp] theorem scanTransition (db : Db) (id other : Nat) (target : ScanStatus)
    (startedAt completedAt : Option Time) :
    (Write.effect db (.transition id target startedAt completedAt)).scan? other =
      (db.scan? other).map fun s => if other = id then s.moved target startedAt completedAt else s :=
  findUpdateRow Scan.id id (Scan.moved target startedAt completedAt) (fun _ => rfl) db.scans other

@[simp] theorem statusTransition (db : Db) (id other : Nat) (target : ScanStatus)
    (startedAt completedAt : Option Time) :
    (Write.effect db (.transition id target startedAt completedAt)).statusOf other =
      (db.statusOf other).map fun s => if other = id then target else s := by
  simp only [statusOf, scanTransition, Option.map_map]
  congr 1
  funext s
  by_cases same : other = id <;> simp [same, Scan.moved]

end Db
end SentinelGpt
