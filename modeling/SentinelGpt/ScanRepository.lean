import SentinelGpt.ScanStore
import SentinelGpt.AiAnalysisService

/-! The database statements of the scan services. Each is named by the point of the code
that sends it, and each of these points can fail. -/
namespace SentinelGpt
open ReadCommitted

/- The points of `execute_scan_job_task`, of the handler of its failures and of the
requests on scans and attestations at which an exception can be raised from outside.
Each job and each request reaches a point at most once. -/
inductive Site where
  | settings
  | getScan
  | statusIds
  | claim
  | getAttestation
  | rejectAudit
  | rejectEngineId
  | rejectExecution
  | rejectMark
  | rejectTransition
  | rejectCommit
  | buildPipeline
  | getTarget
  | engineId
  | createExecution
  | startCommit
  | pipelineRun
  | auditSucceeded
  | failMark
  | failAudit
  | failTransition
  | failCommit
  | markSucceeded
  | persistTarget
  | categoryIds
  | severityIds
  | engineCode
  | addFindings
  | previousScan
  | previousFingerprints
  | latestCodes
  | latestStatus
  | lifecycleIds
  | recordLifecycle
  | scanComplete
  | aiAnalysis
  | aiCommit
  | evidence
  | makeAnalyzer
  | analyze
  | fallback
  | upsertSelect
  | upsertAssessment
  | finalTransition
  | finalCommit
  | markGetScan
  | markStatusIds
  | markFromRunning
  | markFromQueued
  | markEngineId
  | markExecution
  | markMark
  | markAudit
  | markCommit
  | cancelGetScan (scanId : Nat)
  | cancelStatusCode
  | cancelStatusIds
  | cancelTransition
  | cancelDetails
  | cancelProfile
  | cancelCommit
  | admitGetTarget
  | admitIsMember
  | admitGetScan
  | latestActiveConfirmed
  | methodCodeMap
  | admitStatusIds
  | profileId
  | insertScan
  | requestProfile
  | requestAudit
  | admitDetails
  | admitProfile
  | enqueue
  | admitCommit
  | revokeGet
  | revokeGetTarget
  | revokeIsMember
  | revokeUpdate
  | revokeAudit
  | revokeMethodCodeMap
  | revokeCommit
  deriving DecidableEq, Repr

structure Origin where
  hostname : PyStr
  scheme : PyStr
  port : Nat
  path : PyStr
  deriving DecidableEq, Repr

/- The injected secure chain, with the attributes the service looks for. -/
structure ScanPipeline where
  engineCode : Option PyStr
  engineVersion : Option PyStr
  run : Origin → Except PyError HttpAnalysisResult

/- What one job or request meets: the clock, the new ids, the failures of its statements
and commits (a failed commit leaves nothing behind), the scan and the AI provider. -/
structure Env where
  python : Python
  clock : Site → Nat → Time
  newId : Site → Nat → Nat
  fault : Site → Option PyError
  pipeline : ScanPipeline
  analyzer : Option AiAnalysisService.EvidenceAnalyzer
  aiClock : Nat → Time

abbrev Prog := Program Db Write Site PyError

namespace Env
variable (env : Env) {α : Type}

def attempt (site : Site) : Prog Unit :=
  match env.fault site with
  | some e => .raise e
  | none => .pure ()

def statement (site : Site) (writes : Db → List Write) (result : Db → α) : Prog α :=
  match env.fault site with
  | some e => .raise e
  | none => .exec site writes fun db => .pure (result db)

def read (site : Site) (result : Db → α) : Prog α := env.statement site (fun _ => []) result

def write (site : Site) (writes : List Write) : Prog Unit :=
  env.statement site (fun _ => writes) fun _ => ()

def commit (site : Site) : Prog Unit :=
  match env.fault site with
  | some e => .raise e
  | none => .commit site (.pure ())

def now (site : Site) : Time := env.clock site 0

end Env

def ofExcept {α : Type} : Except PyError α → Prog α
  | .ok a => .pure a
  | .error e => .raise e

/-! `ScanRepository` and `ScanEngineExecutionRepository`. -/

def getById (env : Env) (site : Site) (scanId : Nat) : Prog (Option Scan) :=
  env.read site fun db => db.scan? scanId

/- The ids of the statuses are the enumeration, so that only the failure of the
statement is left of reading them. -/
def statusIdsByCode (env : Env) (site : Site) : Prog Unit := env.read site fun _ => ()

/- `UPDATE scan … WHERE id = … AND status_id = …`, True when it found its row. -/
def tryTransition (env : Env) (site : Site) (scanId : Nat) (source target : ScanStatus)
    (startedAt completedAt : Option Time) : Prog Bool :=
  env.statement site
    (fun db => if db.statusOf scanId = some source then
      [.transition scanId target startedAt completedAt] else [])
    fun db => db.statusOf scanId = some source

def executionRow (env : Env) (site : Site) (scanId scanEngineId : Nat)
    (toolVersionSnapshot : PyStr) (status : ExecutionStatus) (startedAt : Option Time) :
    ScanEngineExecution where
  id := env.newId site 0
  scanId := scanId
  scanEngineId := scanEngineId
  toolVersionSnapshot := toolVersionSnapshot
  status := status
  startedAt := startedAt
  completedAt := none
  errorMessage := none

def createExecution (env : Env) (site : Site) (scanId scanEngineId : Nat)
    (toolVersionSnapshot : PyStr) (status : ExecutionStatus) (startedAt : Option Time) :
    Prog ScanEngineExecution := do
  let row := executionRow env site scanId scanEngineId toolVersionSnapshot status startedAt
  env.write site [.insertExecution row]
  return row

def markExecution (env : Env) (site : Site) (executionId : Nat) (status : ExecutionStatus)
    (errorMessage : Option PyStr) : Prog Unit :=
  env.write site [.markExecution executionId status (env.now site) errorMessage]

def uuidStr (id : Nat) : PyStr :=
  let digits := hexText 32 id
  join (py "-") [digits.take 8, (digits.drop 8).take 4, (digits.drop 12).take 4,
    (digits.drop 16).take 4, digits.drop 20]

def auditRow (env : Env) (site : Site) (scan : Scan) (metadata : List (PyStr × PyStr)) :
    AuditLogEntry where
  actorUserId := none
  actionCode := py "SCAN_STATE_TRANSITION"
  entityType := py "scan"
  entityId := scan.id
  metadataJson := metadata
  occurredAt := env.now site

/- `AuditService.record`, of a scan's transition. -/
def recordAudit (env : Env) (site : Site) (scan : Scan) (metadata : List (PyStr × PyStr)) :
    Prog Unit :=
  env.write site [.insertAudit (auditRow env site scan metadata)]

def ownerEntry (scan : Scan) : PyStr × PyStr := (py "ownerUserId", uuidStr scan.initiatedByUserId)

/- `_engine_id`; the lookup table is seeded, but not with every code. -/
def engineIdOf (code : PyStr) : Option Nat :=
  (scanEngines.find? fun engine => engine.2 == code).map Prod.fst

def engineId (env : Env) (site : Site) (code : PyStr) : Prog Nat := do
  let found ← env.read site fun _ => engineIdOf code
  match found with
  | some id => return id
  | none => throw .lookupError

def headersAnalyzer : PyStr := py "headers-analyzer"

section Rules
variable {env : Env} {α : Type} {C : Contract Db Write Site}

theorem attemptMeets (site : Site) : Meets C (env.attempt site) fun _ => True := by
  unfold Env.attempt
  split
  · exact .raise
  · exact .pure trivial

theorem exceptMeets (r : Except PyError α) : Meets C (ofExcept r) fun _ => True := by
  cases r with
  | ok a => exact .pure trivial
  | error e => exact .raise

theorem commitMeets (site : Site) (allowed : ∀ log, C.guarantee log (.commit site)) :
    Meets C (env.commit site) fun _ => True := by
  unfold Env.commit
  split
  · exact .raise
  · exact fun log _ => ⟨allowed log, fun _ _ => trivial⟩

theorem callMeets (site : Site) (allowed : ∀ log, C.guarantee log (.call site)) :
    Meets C (.call site (.pure ()) : Prog Unit) fun _ => True :=
  fun log _ => ⟨allowed log, fun _ _ => trivial⟩

theorem statementMeets {site : Site} {writes : Db → List Write} {result : Db → α} {Q : α → Prop}
    (allowed : ∀ log db, C.guarantee log (.exec site db (writes db))) (holds : ∀ db, Q (result db)) :
    Meets C (env.statement site writes result) Q := by
  unfold Env.statement
  split
  · exact .raise
  · refine fun log db _ => ⟨allowed log db, ?_⟩
    rintro a ⟨⟩
    exact holds db

end Rules

end SentinelGpt
